import Mathlib.Data.Nat.PSub
import VersionedText.Proofs.Rescan

namespace VersionedText

/-!
# Updating a table in place

A table can be kept as three fields: where the lines start, where their contents
end, and how long the text is.  Kept so, it is updated in place.  Two searches
find the breaks that touch the edit, the offsets behind them are moved, and what
a scan of the window finds is spliced in between.  Each of these steps can go
wrong: a difference may fall below zero, a search may meet offsets out of order,
a position may be out of range, a cut may fall inside a character.  Here every
step is checked for it, and for an edit between two boundaries none of them
fails: the update answers, and the fields that it answers are those of the
edited text.
-/

/-- A table, kept as the starts of all lines and the ends of all but the last. -/
structure LineFields where
  starts : List Nat
  ends : List Nat
  length : Nat
  deriving Repr, DecidableEq

namespace LineTable

/-- The fields that a table can be kept as. -/
def fields (table : LineTable) : LineFields :=
  ⟨table.starts, table.ends, table.length⟩

end LineTable

namespace LineFields

/-- How many leading offsets pass a test that no offset behind them passes. -/
def partitionPoint? (passes : Nat → Bool) (offsets : List Nat) : Option Nat :=
  if (offsets.dropWhile passes).all fun offset => !passes offset then
    some (offsets.takeWhile passes).length
  else
    none

/-- Put other offsets in the place of those from one position up to another. -/
def splice? (first last : Nat) (replacement offsets : List Nat) : Option (List Nat) :=
  if first ≤ last ∧ last ≤ offsets.length then
    some (offsets.take first ++ replacement ++ offsets.drop last)
  else
    none

/-- An offset behind the replaced span, as it lies after the edit. -/
def moved? (start stop insertedSize offset : Nat) : Option Nat := do
  let removedSize ← stop.psub start
  let kept ← offset.psub removedSize
  return kept + insertedSize

/-- The replaced span, widened by the breaks that touch it: those from `first` up to `last`. -/
def window? (fields : LineFields) (first last start stop : Nat) : Option Span :=
  if first < last then do
    let firstEnd ← fields.ends[first]?
    let lastStart ← fields.starts[last]?
    return ⟨min start firstEnd, max stop lastStart⟩
  else
    return ⟨start, stop⟩

/--
The fields after `start..stop` of the old text was replaced by `insertedSize`
bytes, giving `edited`, if nothing goes wrong on the way.
-/
def update?
    (fields : LineFields)
    (edited : Text)
    (start stop insertedSize : Nat) :
    Option LineFields :=
  if fields.starts.length = fields.ends.length + 1 ∧
      (start ≤ stop ∧ stop ≤ fields.length) ∧
        moved? start stop insertedSize fields.length = some edited.size then do
    let first ← partitionPoint? (· < start) fields.starts.tail
    let last ← partitionPoint? (· ≤ stop) fields.ends
    let window ← fields.window? first last start stop
    let windowStop ← moved? start stop insertedSize window.stop
    let laterEnds ← (fields.ends.drop last).mapM (moved? start stop insertedSize)
    let laterStarts ← (fields.starts.drop (last + 1)).mapM (moved? start stop insertedSize)
    let windowText ← edited.slice? window.start windowStop
    let rescanned := windowText.lineBreaks.map fun lineBreak => lineBreak.shift window.start
    let ends ←
      splice? first last (rescanned.map Span.start) (fields.ends.take last ++ laterEnds)
    let starts ←
      splice? (first + 1) (last + 1) (rescanned.map Span.stop)
        (fields.starts.take (last + 1) ++ laterStarts)
    return ⟨starts, ends, edited.size⟩
  else
    none

/-- Where all offsets of one part pass and none of the next does, the test parts the two. -/
theorem partitionPoint?_append
    {passes : Nat → Bool}
    {passing failing : List Nat}
    (allPass : ∀ offset ∈ passing, passes offset = true)
    (allFail : ∀ offset ∈ failing, passes offset = false) :
    partitionPoint? passes (passing ++ failing) = some passing.length := by
  obtain ⟨taken, dropped⟩ := LineTable.takeWhile_dropWhile_append allPass allFail
  have noneBehind : (failing.all fun offset => !passes offset) = true := by
    rw [List.all_eq_true]
    intro offset member
    rw [allFail offset member]
    rfl
  rw [partitionPoint?, taken, dropped, if_pos noneBehind]

/-- A splice in a list of three parts replaces the second. -/
theorem splice?_append
    (earlier replaced later replacement : List Nat) :
    splice? earlier.length (earlier.length + replaced.length) replacement
        (earlier ++ replaced ++ later) =
      some (earlier ++ replacement ++ later) := by
  have inRange :
      earlier.length ≤ earlier.length + replaced.length ∧
        earlier.length + replaced.length ≤ (earlier ++ replaced ++ later).length := by
    simp only [List.length_append]
    omega
  have front : (earlier ++ replaced ++ later).take earlier.length = earlier := by
    rw [List.append_assoc, List.take_left]
  have back : (earlier ++ replaced ++ later).drop (earlier.length + replaced.length) = later := by
    rw [← List.length_append, List.drop_left]
  rw [splice?, if_pos inRange, front, back]

section Edit

variable {start stop : Nat} (inOrder : start ≤ stop) (insertedSize : Nat)

include inOrder

/-- What lies behind the replaced span can be moved. -/
theorem moved?_eq
    {offset : Nat}
    (behind : stop ≤ offset) :
    moved? start stop insertedSize offset =
      some (LineTable.moved start stop insertedSize offset) := by
  have removed : stop.psub start = some (stop - start) :=
    Nat.psub_eq_some.mpr (Nat.sub_add_cancel inOrder)
  have kept : offset.psub (stop - start) = some (offset - (stop - start)) :=
    Nat.psub_eq_some.mpr (by omega)
  simp only [moved?, removed, kept, Option.bind_eq_bind, Option.bind_some]
  rfl

theorem mapM_moved?_eq
    {offsets : List Nat}
    (behind : ∀ offset ∈ offsets, stop ≤ offset) :
    offsets.mapM (moved? start stop insertedSize) =
      some (offsets.map (LineTable.moved start stop insertedSize)) := by
  induction offsets with
  | nil =>
      rfl
  | cons offset later inductionHypothesis =>
      have laterBehind : ∀ offset ∈ later, stop ≤ offset :=
        fun next member => behind next (List.mem_cons_of_mem offset member)
      rw [List.mapM_cons, moved?_eq inOrder insertedSize (behind offset List.mem_cons_self),
        inductionHypothesis laterBehind]
      rfl

end Edit

end LineFields

namespace LineTable

/-- The breaks of a table are in order around an edit, so that two searches tell them apart. -/
structure Parted (table : LineTable) (start stop : Nat) : Prop where
  before :
    ∀ lineBreak ∈ table.breaksBefore start, lineBreak.stop < start ∧ lineBreak.start ≤ stop
  touching :
    ∀ lineBreak ∈ table.breaksTouching start stop,
      start ≤ lineBreak.stop ∧ lineBreak.start ≤ stop
  after :
    ∀ lineBreak ∈ table.breaksAfter start stop,
      start ≤ lineBreak.stop ∧ stop < lineBreak.start ∧ stop < lineBreak.stop

theorem breaks_eq
    (table : LineTable)
    (start stop : Nat) :
    table.breaks =
      table.breaksBefore start ++ table.breaksTouching start stop ++
        table.breaksAfter start stop := by
  rw [List.append_assoc, breaksTouching, breaksAfter, List.takeWhile_append_dropWhile,
    breaksBefore, breaksFrom, List.takeWhile_append_dropWhile]

/-- The position of the first break that touches the edit. -/
def firstTouching (table : LineTable) (start : Nat) : Nat :=
  (table.breaksBefore start).length

/-- The position of the first break behind the edit. -/
def firstAfter (table : LineTable) (start stop : Nat) : Nat :=
  (table.breaksBefore start).length + (table.breaksTouching start stop).length

namespace Parted

variable {table : LineTable} {start stop : Nat}

/-- A search through the starts finds the first break that touches the edit. -/
theorem partitionPoint?_starts (parted : table.Parted start stop) :
    LineFields.partitionPoint? (· < start) table.fields.starts.tail =
      some (table.firstTouching start) := by
  have shape :
      table.fields.starts.tail =
        (table.breaksBefore start).map Span.stop ++
          (table.breaksTouching start stop ++ table.breaksAfter start stop).map Span.stop := by
    rw [fields, starts, List.tail_cons, table.breaks_eq start stop, List.append_assoc,
      List.map_append]
  rw [shape, LineFields.partitionPoint?_append, List.length_map, firstTouching]
  · intro offset member
    obtain ⟨lineBreak, found, rfl⟩ := List.mem_map.mp member
    exact decide_eq_true (parted.before lineBreak found).1
  · intro offset member
    obtain ⟨lineBreak, found, rfl⟩ := List.mem_map.mp member
    rw [decide_eq_false_iff_not, Nat.not_lt]
    rcases List.mem_append.mp found with touching | after
    · exact (parted.touching lineBreak touching).1
    · exact (parted.after lineBreak after).1

/-- A search through the ends finds the first break behind the edit. -/
theorem partitionPoint?_ends (parted : table.Parted start stop) :
    LineFields.partitionPoint? (· ≤ stop) table.fields.ends =
      some (table.firstAfter start stop) := by
  rw [fields, ends, table.breaks_eq start stop, List.map_append, LineFields.partitionPoint?_append,
    List.length_map, List.length_append, firstAfter]
  · intro offset member
    obtain ⟨lineBreak, found, rfl⟩ := List.mem_map.mp member
    apply decide_eq_true
    rcases List.mem_append.mp found with before | touching
    · exact (parted.before lineBreak before).2
    · exact (parted.touching lineBreak touching).2
  · intro offset member
    obtain ⟨lineBreak, found, rfl⟩ := List.mem_map.mp member
    exact decide_eq_false (Nat.not_le_of_lt (parted.after lineBreak found).2.1)

end Parted

/-- The ends of the window are read at the positions found, which are in range. -/
theorem window?_fields
    (table : LineTable)
    (start stop : Nat) :
    table.fields.window? (table.firstTouching start) (table.firstAfter start stop) start stop =
      some (table.window start stop) := by
  have breaks := table.breaks_eq start stop
  rw [LineFields.window?, window, firstTouching, firstAfter]
  cases touching : table.breaksTouching start stop with
  | nil =>
      rw [if_neg (by simp)]
      rfl
  | cons first rest =>
      obtain ⟨front, last, shape⟩ : ∃ front last, first :: rest = front ++ [last] :=
        ⟨_, _, (List.dropLast_concat_getLast (List.cons_ne_nil first rest)).symm⟩
      have firstEnd :
          table.fields.ends[(table.breaksBefore start).length]? = some first.start := by
        simp [fields, ends, breaks, touching]
      have lastStart :
          table.fields.starts[(table.breaksBefore start).length + (first :: rest).length]? =
            some last.stop := by
        have parted :
            table.breaks =
              table.breaksBefore start ++ front ++ last :: table.breaksAfter start stop := by
          rw [breaks, touching, shape]
          simp only [List.append_assoc, List.singleton_append]
        have place :
            (table.breaksBefore start).length + (front ++ [last]).length =
              (table.breaksBefore start ++ front).length + 1 := by
          simp only [List.length_append, List.length_singleton, Nat.add_assoc]
        rw [shape, place, fields, starts, List.getElem?_cons_succ, List.getElem?_map, parted,
          List.getElem?_append_right (Nat.le_refl _), Nat.sub_self, List.getElem?_cons_zero,
          Option.map_some]
      have lastTouching : (first :: rest).getLast? = some last := by
        rw [shape, List.getLast?_concat]
      rw [if_pos (by simp), firstEnd, lastStart, lastTouching]
      rfl

theorem le_stop_window
    (table : LineTable)
    (start stop : Nat) :
    stop ≤ (table.window start stop).stop := by
  rw [window]
  dsimp only
  split
  · exact Nat.le_max_left _ _
  · exact Nat.le_refl _

/-- The ends of a table: those of the breaks up to the edit, and those of the breaks behind it. -/
theorem ends_fields
    (table : LineTable)
    (start stop : Nat) :
    table.fields.ends.take (table.firstAfter start stop) =
        (table.breaksBefore start).map Span.start ++
          (table.breaksTouching start stop).map Span.start ∧
      table.fields.ends.drop (table.firstAfter start stop) =
        (table.breaksAfter start stop).map Span.start := by
  have shape :
      table.fields.ends =
        (table.breaksBefore start).map Span.start ++
            (table.breaksTouching start stop).map Span.start ++
          (table.breaksAfter start stop).map Span.start := by
    rw [fields, ends, table.breaks_eq start stop, List.map_append, List.map_append]
  rw [shape]
  exact ⟨List.take_left' (by simp [firstAfter]), List.drop_left' (by simp [firstAfter])⟩

/-- The starts of a table are one more: the first line starts without a break. -/
theorem starts_fields
    (table : LineTable)
    (start stop : Nat) :
    table.fields.starts.take (table.firstAfter start stop + 1) =
        0 :: (table.breaksBefore start).map Span.stop ++
          (table.breaksTouching start stop).map Span.stop ∧
      table.fields.starts.drop (table.firstAfter start stop + 1) =
        (table.breaksAfter start stop).map Span.stop := by
  have shape :
      table.fields.starts =
        0 :: (table.breaksBefore start).map Span.stop ++
            (table.breaksTouching start stop).map Span.stop ++
          (table.breaksAfter start stop).map Span.stop := by
    rw [fields, starts, table.breaks_eq start stop, List.map_append, List.map_append]
    rfl
  rw [shape]
  exact
    ⟨List.take_left' (by simp [firstAfter, Nat.add_right_comm]),
      List.drop_left' (by simp [firstAfter, Nat.add_right_comm])⟩

/-- The splice in the ends replaces those of the breaks that touch the edit. -/
theorem splice?_ends
    (table : LineTable)
    (start stop : Nat)
    (replacement later : List Nat) :
    LineFields.splice? (table.firstTouching start) (table.firstAfter start stop) replacement
        (table.fields.ends.take (table.firstAfter start stop) ++ later) =
      some ((table.breaksBefore start).map Span.start ++ replacement ++ later) := by
  have spliced :=
    LineFields.splice?_append ((table.breaksBefore start).map Span.start)
      ((table.breaksTouching start stop).map Span.start) later replacement
  rw [List.length_map, List.length_map] at spliced
  rw [(table.ends_fields start stop).1]
  exact spliced

/-- The splice in the starts replaces those of the same breaks, one position further on. -/
theorem splice?_starts
    (table : LineTable)
    (start stop : Nat)
    (replacement later : List Nat) :
    LineFields.splice? (table.firstTouching start + 1) (table.firstAfter start stop + 1) replacement
        (table.fields.starts.take (table.firstAfter start stop + 1) ++ later) =
      some (0 :: (table.breaksBefore start).map Span.stop ++ replacement ++ later) := by
  have spliced :=
    LineFields.splice?_append (0 :: (table.breaksBefore start).map Span.stop)
      ((table.breaksTouching start stop).map Span.stop) later replacement
  rw [List.length_cons, List.length_map, List.length_map, Nat.add_right_comm] at spliced
  rw [(table.starts_fields start stop).1]
  exact spliced

namespace Parted

variable {table : LineTable} {start stop : Nat}

/-- The ends behind the edit can all be moved. -/
theorem mapM_ends
    (parted : table.Parted start stop)
    (inOrder : start ≤ stop)
    (insertedSize : Nat) :
    (table.fields.ends.drop (table.firstAfter start stop)).mapM
        (LineFields.moved? start stop insertedSize) =
      some (((table.breaksAfter start stop).map Span.start).map
        (moved start stop insertedSize)) := by
  rw [(table.ends_fields start stop).2]
  apply LineFields.mapM_moved?_eq inOrder
  intro offset member
  obtain ⟨lineBreak, found, rfl⟩ := List.mem_map.mp member
  exact Nat.le_of_lt (parted.after lineBreak found).2.1

/-- So can the starts of the lines that the breaks there open. -/
theorem mapM_starts
    (parted : table.Parted start stop)
    (inOrder : start ≤ stop)
    (insertedSize : Nat) :
    (table.fields.starts.drop (table.firstAfter start stop + 1)).mapM
        (LineFields.moved? start stop insertedSize) =
      some (((table.breaksAfter start stop).map Span.stop).map
        (moved start stop insertedSize)) := by
  rw [(table.starts_fields start stop).2]
  apply LineFields.mapM_moved?_eq inOrder
  intro offset member
  obtain ⟨lineBreak, found, rfl⟩ := List.mem_map.mp member
  exact Nat.le_of_lt (parted.after lineBreak found).2.2

/-- Around an edit that fits, no step of the update in place fails, and it agrees with the update. -/
theorem update?_fields
    {edited windowText : Text}
    {insertedSize : Nat}
    (parted : table.Parted start stop)
    (inOrder : start ≤ stop)
    (within : stop ≤ table.length)
    (sizes : moved start stop insertedSize table.length = edited.size)
    (cut :
      edited.slice? (table.window start stop).start
          (moved start stop insertedSize (table.window start stop).stop) =
        some windowText) :
    table.fields.update? edited start stop insertedSize =
      some (table.update edited start stop insertedSize).fields := by
  have paired : table.fields.starts.length = table.fields.ends.length + 1 := by
    simp [fields, starts, ends]
  have fits : start ≤ stop ∧ stop ≤ table.fields.length :=
    ⟨inOrder, within⟩
  have size :
      LineFields.moved? start stop insertedSize table.fields.length = some edited.size := by
    rw [← sizes]
    exact LineFields.moved?_eq inOrder insertedSize within
  have windowStop :=
    LineFields.moved?_eq inOrder insertedSize (table.le_stop_window start stop)
  have windowShape := Text.between_of_slice? cut
  have rescanned :
      windowText.lineBreaks.map (fun lineBreak => lineBreak.shift (table.window start stop).start) =
        Text.lineBreaksFrom (table.window start stop).start windowText := by
    rw [Text.lineBreaks, ← Text.lineBreaksFrom_add, Nat.zero_add]
  have updated :
      (table.update edited start stop insertedSize).fields =
        ⟨0 :: (table.breaksBefore start).map Span.stop ++
              (Text.lineBreaksFrom (table.window start stop).start windowText).map Span.stop ++
            ((table.breaksAfter start stop).map Span.stop).map (moved start stop insertedSize),
          (table.breaksBefore start).map Span.start ++
              (Text.lineBreaksFrom (table.window start stop).start windowText).map Span.start ++
            ((table.breaksAfter start stop).map Span.start).map (moved start stop insertedSize),
          edited.size⟩ := by
    simp only [update, fields, starts, ends, windowShape, List.map_append, List.map_map,
      List.cons_append]
    rfl
  rw [LineFields.update?, if_pos ⟨paired, fits, size⟩]
  simp only [Option.pure_def, Option.bind_eq_bind, Option.bind_some,
    parted.partitionPoint?_starts, parted.partitionPoint?_ends, table.window?_fields, windowStop,
    parted.mapM_ends inOrder, parted.mapM_starts inOrder, cut, rescanned, table.splice?_ends,
    table.splice?_starts, updated]

/-- Within a frame, the breaks of a text are parted by the edit. -/
theorem of_frames
    {before lead trail behind : Text}
    (frames : Text.Frames before lead trail behind)
    (removed : Text) :
    (ofText (before ++ lead ++ removed ++ (trail ++ behind))).Parted
      (before ++ lead).size ((before ++ lead).size + removed.size) := by
  obtain ⟨breaksBefore, breaksTouching, breaksAfter⟩ := breaks_ofText frames removed
  refine ⟨?_, ?_, ?_⟩
  · rw [breaksBefore]
    intro lineBreak found
    have stops := frames.stops lineBreak found
    have bounds := Text.bounds_of_mem_lineBreaksFrom found
    omega
  · rw [breaksTouching]
    exact frames.touches removed
  · rw [breaksAfter]
    intro lineBreak found
    have starts := frames.starts _ lineBreak found
    have bounds := Text.bounds_of_mem_lineBreaksFrom found
    omega

end Parted

/--
An edit between two boundaries of a text, carried out on the table of the text:
both the update and the update in place lead to the table of the edited text, so
that no step of the latter fails, no difference, no search, no splice and no cut.
-/
theorem update_ofText_inPlace
    (text inserted : Text)
    {start stop : Nat}
    (inOrder : start ≤ stop)
    (within : stop ≤ text.size)
    (startBoundary : text.isBoundary start = true)
    (stopBoundary : text.isBoundary stop = true) :
    let edited := text.before start ++ inserted ++ text.after stop
    (ofText text).update edited start stop inserted.size = ofText edited ∧
      (ofText text).fields.update? edited start stop inserted.size =
        some (ofText edited).fields := by
  intro edited
  obtain ⟨head, removed, tail, rfl, rfl, rfl⟩ :=
    Text.exists_parts_of_isBoundary inOrder startBoundary stopBoundary
  obtain ⟨before, lead, trail, behind, rfl, rfl, frames⟩ := Text.exists_frames head tail
  have editedShape : edited = before ++ lead ++ inserted ++ (trail ++ behind) :=
    Text.splice_append_size _ _ _ _
  have updated := update_ofText_frames frames removed inserted
  rw [editedShape]
  refine ⟨updated, ?_⟩
  rw [← updated]
  apply (Parted.of_frames frames removed).update?_fields inOrder within
  · simp only [ofText, moved, Text.size_append]
    omega
  · exact slice?_window frames removed inserted

/-- Where the text between a carriage return and a line feed is taken out, the two become one break. -/
theorem update_ofText_joining :
    let text : Text := ['x', '\r', 'é', '\n', '\u2028']
    let edited : Text := ['x', '\r', '\n', '\u2028']
    (2 ≤ 4 ∧ 4 ≤ text.size ∧ text.isBoundary 2 = true ∧ text.isBoundary 4 = true) ∧
      text.before 2 ++ [] ++ text.after 4 = edited ∧
      (ofText text).fields = ⟨[0, 2, 5, 8], [1, 4, 5], 8⟩ ∧
      (ofText text).update edited 2 4 0 = ofText edited ∧
      (ofText text).fields.update? edited 2 4 0 = some ⟨[0, 3, 6], [1, 3], 6⟩ := by
  intro text edited
  have startBoundary : text.isBoundary 2 = true := by decide
  have stopBoundary : text.isBoundary 4 = true := by decide
  have updated :=
    update_ofText_inPlace text [] (by decide) (by decide) startBoundary stopBoundary
  exact ⟨⟨by decide, by decide, startBoundary, stopBoundary⟩, rfl, by decide, updated⟩

end LineTable

end VersionedText
