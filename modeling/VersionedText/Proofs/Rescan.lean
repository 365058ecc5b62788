import VersionedText.LineTable.Update
import VersionedText.Proofs.Cut
import VersionedText.Proofs.LineBreaks

namespace VersionedText

/-!
# Rescanning the window of an edit

Around an edit a text falls into five parts: what lies before the window, a
break or nothing that leads up to the edit, the text that the edit replaces, a
break or nothing that trails it, and what lies behind the window.  The outer cuts
separate no pair, whatever stands between the two breaks.  So the breaks before
and behind the window are the same for the old text and the edited one, up to a
move, and the window is all that has to be scanned again: an updated table is
that of the edited text.
-/

namespace Text

namespace IsBreak

theorem lineBreaksFrom
    {text : Text}
    (isBreak : text.IsBreak)
    (offset : Nat) :
    text.lineBreaksFrom offset = [⟨offset, offset + text.size⟩] := by
  cases isBreak with
  | pair =>
      rw [lineBreaksFrom_pair, lineBreaksFrom_nil]
      rfl
  | @single character ends =>
      have alone : ¬SplitsPair [character] [] := fun splits => nomatch splits.2
      rw [lineBreaksFrom_cons alone, if_pos ends, lineBreaksFrom_nil]
      rfl

/-- A break at the beginning of a text is a whole break there or the first of a pair. -/
theorem exists_whole_append
    {lead : Text}
    (isBreak : lead.IsBreak)
    (later : Text) :
    ∃ whole rest,
      lead ++ later = whole ++ rest ∧
        whole.IsBreak ∧ ¬SplitsPair whole rest ∧ lead.size ≤ whole.size := by
  cases isBreak with
  | pair =>
      exact ⟨['\r', '\n'], later, rfl, .pair, not_splitsPair_after_pair _, Nat.le_refl _⟩
  | @single character ends =>
      by_cases splits : SplitsPair [character] later
      · obtain ⟨last, head⟩ := splits
        obtain ⟨rest, rfl⟩ := List.head?_eq_some_iff.mp head
        obtain rfl := Option.some.inj last
        exact ⟨['\r', '\n'], rest, rfl, .pair, not_splitsPair_after_pair _, by decide⟩
      · exact ⟨[character], later, rfl, .single ends, splits, Nat.le_refl _⟩

/-- A break at the end of a text is a whole break there or the second of a pair. -/
theorem exists_append_whole
    {trail : Text}
    (isBreak : trail.IsBreak)
    (earlier : Text) :
    ∃ rest whole,
      earlier ++ trail = rest ++ whole ∧
        whole.IsBreak ∧ ¬SplitsPair rest whole ∧ rest.size ≤ earlier.size := by
  cases isBreak with
  | pair =>
      exact ⟨earlier, ['\r', '\n'], rfl, .pair, not_splitsPair_before_pair _ _, Nat.le_refl _⟩
  | @single character ends =>
      by_cases splits : SplitsPair earlier [character]
      · obtain ⟨last, head⟩ := splits
        obtain ⟨rest, rfl⟩ := List.getLast?_eq_some_iff.mp last
        obtain rfl := Option.some.inj head
        refine ⟨rest, ['\r', '\n'], by simp, .pair, not_splitsPair_before_pair _ _, ?_⟩
        rw [size_append]
        exact Nat.le_add_right _ _
      · exact ⟨earlier, [character], rfl, .single ends, splits, Nat.le_refl _⟩

end IsBreak

/-- The first break of a text that begins with a break, or with nothing, and where breaks may end. -/
theorem lineBreaksFrom_lead
    {lead : Text}
    (leads : lead = [] ∨ lead.IsBreak)
    (offset : Nat)
    (later : Text) :
    (∀ lineBreak ∈ lineBreaksFrom offset (lead ++ later), offset + lead.size ≤ lineBreak.stop) ∧
      (lead = [] ∨
        ∃ first, (lineBreaksFrom offset (lead ++ later)).head? = some first ∧
          first.start = offset) := by
  rcases leads with rfl | isBreak
  · refine ⟨?_, .inl rfl⟩
    intro lineBreak found
    have bounds := bounds_of_mem_lineBreaksFrom found
    rw [size_nil]
    omega
  · obtain ⟨whole, rest, shape, wholeBreak, apart, longer⟩ := isBreak.exists_whole_append later
    rw [shape, lineBreaksFrom_append apart, wholeBreak.lineBreaksFrom]
    refine ⟨?_, .inr ⟨_, rfl, rfl⟩⟩
    rw [List.singleton_append, List.forall_mem_cons]
    refine ⟨Nat.add_le_add_left longer offset, ?_⟩
    intro lineBreak found
    have bounds := bounds_of_mem_lineBreaksFrom found
    omega

/-- The last break of a text that ends with a break, or with nothing, and where breaks may begin. -/
theorem lineBreaksFrom_trail
    {trail : Text}
    (trails : trail = [] ∨ trail.IsBreak)
    (offset : Nat)
    (earlier : Text) :
    (∀ lineBreak ∈ lineBreaksFrom offset (earlier ++ trail),
        lineBreak.start ≤ offset + earlier.size) ∧
      (trail = [] ∨
        ∃ last, (lineBreaksFrom offset (earlier ++ trail)).getLast? = some last ∧
          last.stop = offset + (earlier ++ trail).size) := by
  rcases trails with rfl | isBreak
  · refine ⟨?_, .inl rfl⟩
    intro lineBreak found
    have bounds := bounds_of_mem_lineBreaksFrom found
    rw [List.append_nil] at bounds
    omega
  · obtain ⟨rest, whole, shape, wholeBreak, apart, shorter⟩ := isBreak.exists_append_whole earlier
    rw [shape, lineBreaksFrom_append apart, wholeBreak.lineBreaksFrom]
    refine ⟨?_, .inr ⟨_, List.getLast?_concat, ?_⟩⟩
    · intro lineBreak found
      rcases List.mem_append.mp found with before | now
      · have bounds := bounds_of_mem_lineBreaksFrom before
        omega
      · obtain rfl := List.mem_singleton.mp now
        exact Nat.add_le_add_left shorter offset
    · rw [size_append, Nat.add_assoc]

/-- Breaks end before a part that follows them, if there is anything in it. -/
theorem stop_lt_size_append
    {earlier closing : Text}
    {lineBreak : Span}
    (occupied : closing ≠ [])
    (found : lineBreak ∈ lineBreaks earlier) :
    lineBreak.stop < (earlier ++ closing).size := by
  have bounds := bounds_of_mem_lineBreaksFrom found
  have positive : closing.size ≠ 0 := by simpa using occupied
  rw [size_append]
  omega

/-- Breaks start after a part that precedes them, if there is anything in it. -/
theorem lt_start_of_mem_lineBreaksFrom
    {opening later : Text}
    {offset : Nat}
    {lineBreak : Span}
    (occupied : opening ≠ [])
    (found : lineBreak ∈ lineBreaksFrom (offset + opening.size) later) :
    offset < lineBreak.start := by
  have bounds := bounds_of_mem_lineBreaksFrom found
  have positive : opening.size ≠ 0 := by simpa using occupied
  omega

/-- A text up to an edit ends with the break that leads up to the edit, or with none. -/
theorem exists_lead (head : Text) :
    ∃ before lead,
      head = before ++ lead ∧
        (lead = [] ∨ lead.IsBreak) ∧
        (∀ later, ¬SplitsPair before (lead ++ later)) ∧
        ∀ lineBreak ∈ lineBreaks before, lineBreak.stop < head.size := by
  rcases List.eq_nil_or_concat head with rfl | ⟨rest, character, shape⟩
  · refine ⟨[], [], rfl, .inl rfl, ?_, ?_⟩
    · rintro later ⟨last, -⟩
      cases last
    · intro lineBreak found
      rw [lineBreaks, lineBreaksFrom_nil] at found
      cases found
  · rw [List.concat_eq_append] at shape
    subst shape
    by_cases ends : isBreakCharacter character = true
    · by_cases splits : SplitsPair rest [character]
      · obtain ⟨last, head⟩ := splits
        obtain ⟨shorter, rfl⟩ := List.getLast?_eq_some_iff.mp last
        obtain rfl := Option.some.inj head
        refine ⟨shorter, ['\r', '\n'], by simp, .inr .pair,
          fun later => not_splitsPair_before_pair _ _, ?_⟩
        intro lineBreak found
        rw [List.append_assoc]
        exact stop_lt_size_append (by simp) found
      · exact ⟨rest, [character], rfl, .inr (.single ends), fun later => splits,
          fun lineBreak => stop_lt_size_append (by simp)⟩
    · refine ⟨rest ++ [character], [], by simp, .inl rfl, ?_, ?_⟩
      · rintro later ⟨last, -⟩
        rw [List.getLast?_concat] at last
        obtain rfl := Option.some.inj last
        exact ends rfl
      · have apart : ¬SplitsPair rest [character] := by
          rintro ⟨-, head⟩
          obtain rfl := Option.some.inj head
          exact ends rfl
        have alone : ¬SplitsPair [character] [] := by
          rintro ⟨-, head⟩
          cases head
        rw [lineBreaks, lineBreaksFrom_append apart, lineBreaksFrom_cons alone, if_neg ends,
          lineBreaksFrom_nil, List.append_nil, List.append_nil]
        exact fun lineBreak => stop_lt_size_append (by simp)

/-- A text from an edit on begins with the break that trails the edit, or with none. -/
theorem exists_trail (tail : Text) :
    ∃ trail behind,
      tail = trail ++ behind ∧
        (trail = [] ∨ trail.IsBreak) ∧
        (∀ earlier, ¬SplitsPair (earlier ++ trail) behind) ∧
        ∀ offset, ∀ lineBreak ∈ lineBreaksFrom (offset + trail.size) behind,
          offset < lineBreak.start := by
  cases tail with
  | nil =>
      refine ⟨[], [], rfl, .inl rfl, ?_, ?_⟩
      · rintro earlier ⟨-, head⟩
        cases head
      · intro offset lineBreak found
        rw [lineBreaksFrom_nil] at found
        cases found
  | cons character rest =>
      by_cases ends : isBreakCharacter character = true
      · by_cases splits : SplitsPair [character] rest
        · obtain ⟨last, head⟩ := splits
          obtain ⟨longer, rfl⟩ := List.head?_eq_some_iff.mp head
          obtain rfl := Option.some.inj last
          refine ⟨['\r', '\n'], longer, rfl, .inr .pair, ?_,
            fun offset lineBreak => lt_start_of_mem_lineBreaksFrom (by simp)⟩
          rintro earlier ⟨last, -⟩
          simp at last
        · refine ⟨[character], rest, rfl, .inr (.single ends), ?_,
            fun offset lineBreak => lt_start_of_mem_lineBreaksFrom (by simp)⟩
          rintro earlier ⟨last, head⟩
          rw [List.getLast?_concat] at last
          exact splits ⟨last, head⟩
      · have apart : ¬SplitsPair [character] rest := by
          rintro ⟨last, -⟩
          obtain rfl := Option.some.inj last
          exact ends rfl
        refine ⟨[], character :: rest, rfl, .inl rfl, ?_, ?_⟩
        · rintro earlier ⟨-, head⟩
          obtain rfl := Option.some.inj head
          exact ends rfl
        · intro offset lineBreak found
          rw [size_nil, Nat.add_zero, lineBreaksFrom_cons apart, if_neg ends, List.nil_append]
            at found
          have occupied : [character] ≠ [] := by simp
          exact lt_start_of_mem_lineBreaksFrom occupied found

/--
The parts of a text around an edit: whatever stands between `lead` and `trail`,
the cuts behind `before` and ahead of `behind` separate no pair, and the breaks
out there do not touch the edit.
-/
structure Frames (before lead trail behind : Text) : Prop where
  leads : lead = [] ∨ lead.IsBreak
  trails : trail = [] ∨ trail.IsBreak
  beforeWhole : ∀ later, ¬SplitsPair before (lead ++ later)
  behindWhole : ∀ earlier, ¬SplitsPair (earlier ++ trail) behind
  stops : ∀ lineBreak ∈ lineBreaks before, lineBreak.stop < (before ++ lead).size
  starts :
    ∀ offset, ∀ lineBreak ∈ lineBreaksFrom (offset + trail.size) behind,
      offset < lineBreak.start

/-- Every edit has a frame. -/
theorem exists_frames (head tail : Text) :
    ∃ before lead trail behind,
      head = before ++ lead ∧ tail = trail ++ behind ∧ Frames before lead trail behind := by
  obtain ⟨before, lead, rfl, leads, beforeWhole, stops⟩ := exists_lead head
  obtain ⟨trail, behind, rfl, trails, behindWhole, starts⟩ := exists_trail tail
  exact ⟨before, lead, trail, behind, rfl, rfl,
    ⟨leads, trails, beforeWhole, behindWhole, stops, starts⟩⟩

namespace Frames

variable {before lead trail behind : Text}

/-- Within a frame, the breaks of a text are those of its three outer parts. -/
theorem lineBreaks
    (frames : Frames before lead trail behind)
    (middle : Text) :
    (before ++ lead ++ middle ++ (trail ++ behind)).lineBreaks =
      before.lineBreaks ++
        (lineBreaksFrom before.size (lead ++ middle ++ trail) ++
          lineBreaksFrom ((before ++ lead).size + middle.size + trail.size) behind) := by
  have shape :
      before ++ lead ++ middle ++ (trail ++ behind) =
        before ++ (lead ++ middle ++ trail ++ behind) := by
    simp only [List.append_assoc]
  have outer := frames.beforeWhole (middle ++ trail ++ behind)
  have inner := frames.behindWhole (lead ++ middle)
  have sizes :
      before.size + (lead ++ middle ++ trail).size =
        (before ++ lead).size + middle.size + trail.size := by
    simp only [size_append]
    omega
  rw [shape, Text.lineBreaks, lineBreaksFrom_append (by simpa only [List.append_assoc] using outer),
    Nat.zero_add, lineBreaksFrom_append inner, sizes]
  rfl

/-- The breaks between the outer parts are those that touch the edit. -/
theorem touches
    (frames : Frames before lead trail behind)
    (middle : Text) :
    ∀ lineBreak ∈ lineBreaksFrom before.size (lead ++ middle ++ trail),
      (before ++ lead).size ≤ lineBreak.stop ∧
        lineBreak.start ≤ (before ++ lead).size + middle.size := by
  intro lineBreak found
  have starts := (lineBreaksFrom_trail frames.trails before.size (lead ++ middle)).1 lineBreak found
  rw [List.append_assoc] at found
  have stops := (lineBreaksFrom_lead frames.leads before.size (middle ++ trail)).1 lineBreak found
  simp only [size_append] at starts ⊢
  omega

end Frames

end Text

namespace LineTable

open Text

/-- What passes and what fails a test, told apart by where it stops being passed. -/
theorem takeWhile_dropWhile_append
    {passes : α → Bool}
    {passing failing : List α}
    (allPass : ∀ item ∈ passing, passes item = true)
    (allFail : ∀ item ∈ failing, passes item = false) :
    (passing ++ failing).takeWhile passes = passing ∧
      (passing ++ failing).dropWhile passes = failing := by
  rw [List.takeWhile_append_of_pos allPass, List.dropWhile_append_of_pos allPass]
  cases failing with
  | nil =>
      simp
  | cons first rest =>
      simp [allFail first List.mem_cons_self]

section Window

variable {before lead trail behind : Text}

/-- The table of a text tells the breaks before an edit, at it and behind it apart. -/
theorem breaks_ofText
    (frames : Frames before lead trail behind)
    (removed : Text) :
    let table := ofText (before ++ lead ++ removed ++ (trail ++ behind))
    let start := (before ++ lead).size
    let stop := (before ++ lead).size + removed.size
    table.breaksBefore start = before.lineBreaks ∧
      table.breaksTouching start stop =
        lineBreaksFrom before.size (lead ++ removed ++ trail) ∧
      table.breaksAfter start stop = lineBreaksFrom (stop + trail.size) behind := by
  intro table start stop
  have touches := frames.touches removed
  have starts := frames.starts stop
  have split :
      table.breaksBefore start = before.lineBreaks ∧
        table.breaksFrom start =
          lineBreaksFrom before.size (lead ++ removed ++ trail) ++
            lineBreaksFrom (stop + trail.size) behind := by
    simp only [table, breaksBefore, breaksFrom, ofText, frames.lineBreaks removed]
    apply takeWhile_dropWhile_append
    · intro lineBreak found
      exact decide_eq_true (frames.stops lineBreak found)
    · intro lineBreak found
      rw [decide_eq_false_iff_not, Nat.not_lt]
      rcases List.mem_append.mp found with touching | later
      · exact (touches lineBreak touching).1
      · have behindEdit := starts lineBreak later
        have bounds := bounds_of_mem_lineBreaksFrom later
        omega
  refine ⟨split.1, ?_⟩
  rw [breaksTouching, breaksAfter, split.2]
  apply takeWhile_dropWhile_append
  · intro lineBreak found
    exact decide_eq_true (touches lineBreak found).2
  · intro lineBreak found
    exact decide_eq_false (Nat.not_le_of_lt (starts lineBreak found))

/-- The window of an edit reaches over the breaks at its two ends. -/
theorem window_ofText
    (frames : Frames before lead trail behind)
    (removed : Text) :
    (ofText (before ++ lead ++ removed ++ (trail ++ behind))).window
        (before ++ lead).size ((before ++ lead).size + removed.size) =
      ⟨before.size, before.size + (lead ++ removed ++ trail).size⟩ := by
  have touching := (breaks_ofText frames removed).2.1
  have within :
      ∀ lineBreak ∈ lineBreaksFrom before.size (lead ++ removed ++ trail),
        before.size ≤ lineBreak.start ∧
          lineBreak.stop ≤ before.size + (lead ++ removed ++ trail).size := by
    intro lineBreak found
    have bounds := bounds_of_mem_lineBreaksFrom found
    exact ⟨bounds.1, bounds.2.2⟩
  have leading := (lineBreaksFrom_lead frames.leads before.size (removed ++ trail)).2
  have trailing := (lineBreaksFrom_trail frames.trails before.size (lead ++ removed)).2
  rw [← List.append_assoc] at leading
  rw [window, touching]
  simp only [Span.mk.injEq]
  constructor
  · cases found : (lineBreaksFrom before.size (lead ++ removed ++ trail)).head? with
    | none =>
        rcases leading with rfl | ⟨first, isFirst, -⟩
        · rw [List.append_nil]
        · rw [found] at isFirst
          cases isFirst
    | some lineBreak =>
        have bounds := within lineBreak (List.mem_of_head? found)
        rcases leading with rfl | ⟨first, isFirst, atStart⟩
        · rw [List.append_nil]
          exact Nat.min_eq_left bounds.1
        · obtain rfl := Option.some.inj (found.symm.trans isFirst)
          simp only [size_append]
          omega
  · cases found : (lineBreaksFrom before.size (lead ++ removed ++ trail)).getLast? with
    | none =>
        rcases trailing with rfl | ⟨last, isLast, -⟩
        · simp [Nat.add_assoc]
        · rw [found] at isLast
          cases isLast
    | some lineBreak =>
        have bounds := within lineBreak (List.mem_of_getLast? found)
        rcases trailing with rfl | ⟨last, isLast, atStop⟩
        · simp only [size_append, size_nil] at bounds ⊢
          omega
        · obtain rfl := Option.some.inj (found.symm.trans isLast)
          simp only [size_append] at atStop ⊢
          omega

/-- Moved along with the edit, the window cuts the edited text at boundaries. -/
theorem slice?_window
    (frames : Frames before lead trail behind)
    (removed inserted : Text) :
    let edited := before ++ lead ++ inserted ++ (trail ++ behind)
    let start := (before ++ lead).size
    let stop := (before ++ lead).size + removed.size
    let oldWindow := (ofText (before ++ lead ++ removed ++ (trail ++ behind))).window start stop
    let windowStop := moved start stop inserted.size oldWindow.stop
    edited.slice? oldWindow.start windowStop = some (lead ++ inserted ++ trail) := by
  intro edited start stop oldWindow windowStop
  rw [slice?_eq_some_iff]
  refine ⟨before, behind, ?_, ?_, ?_⟩
  · simp only [edited, List.append_assoc]
  · simp only [oldWindow, start, stop, window_ofText frames removed]
  · simp only [windowStop, oldWindow, start, stop, window_ofText frames removed, moved,
      size_append]
    omega

/-- Scanning the window again, and moving what lies behind it, is scanning the edited text. -/
theorem update_ofText_frames
    (frames : Frames before lead trail behind)
    (removed inserted : Text) :
    (ofText (before ++ lead ++ removed ++ (trail ++ behind))).update
        (before ++ lead ++ inserted ++ (trail ++ behind))
        (before ++ lead).size
        ((before ++ lead).size + removed.size)
        inserted.size =
      ofText (before ++ lead ++ inserted ++ (trail ++ behind)) := by
  obtain ⟨earlier, -, later⟩ := breaks_ofText frames removed
  have windowText := between_of_slice? (slice?_window frames removed inserted)
  have movedBreaks :
      (lineBreaksFrom ((before ++ lead).size + removed.size + trail.size) behind).map
          (fun lineBreak =>
            (⟨moved (before ++ lead).size ((before ++ lead).size + removed.size) inserted.size
                lineBreak.start,
              moved (before ++ lead).size ((before ++ lead).size + removed.size) inserted.size
                lineBreak.stop⟩ : Span)) =
        lineBreaksFrom ((before ++ lead).size + inserted.size + trail.size) behind := by
    rw [← Nat.zero_add ((before ++ lead).size + removed.size + trail.size),
      ← Nat.zero_add ((before ++ lead).size + inserted.size + trail.size),
      lineBreaksFrom_add, lineBreaksFrom_add, List.map_map]
    apply List.map_congr_left
    intro lineBreak _
    simp only [Function.comp_apply, Span.shift, moved, Span.mk.injEq]
    omega
  rw [update, earlier, later, windowText, movedBreaks, window_ofText frames removed]
  rw [ofText, frames.lineBreaks inserted, List.append_assoc]

end Window

/-- The table of a text, updated after an edit, is the table of the edited text. -/
theorem update_ofText
    (head removed inserted tail : Text) :
    (ofText (head ++ removed ++ tail)).update (head ++ inserted ++ tail)
        head.size (head.size + removed.size) inserted.size =
      ofText (head ++ inserted ++ tail) := by
  obtain ⟨before, lead, trail, behind, rfl, rfl, frames⟩ := exists_frames head tail
  exact update_ofText_frames frames removed inserted

end LineTable

end VersionedText
