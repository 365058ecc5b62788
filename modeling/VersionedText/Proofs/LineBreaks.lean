import VersionedText.LineTable

namespace VersionedText.Text

/-!
# Line breaks of parts

Where a text is cut in two, its line breaks are those of the two parts, those of
the second moved along, unless the cut comes between a carriage return and the
line feed behind it.  Breaks are characters at the edge of a part, or a pair of
them, so what a part contributes depends on its neighbours only there.
-/

/-- A cut between the two texts separates a carriage return from its line feed. -/
def SplitsPair (first second : Text) : Prop :=
  first.getLast? = some '\r' ∧ second.head? = some '\n'

/-- A character that ends a line, if only as the first of a pair. -/
def isBreakCharacter (character : Char) : Bool :=
  character == '\r' || isLineEnd character

/-- A text that is one line break and nothing else. -/
inductive IsBreak : Text → Prop where
  | pair : IsBreak ['\r', '\n']
  | single
      {character : Char} :
      isBreakCharacter character = true →
      IsBreak [character]

/-- What follows a pair does not belong to it. -/
theorem not_splitsPair_after_pair (later : Text) : ¬SplitsPair ['\r', '\n'] later := by
  rintro ⟨last, -⟩
  cases last

theorem not_splitsPair_before_pair
    (earlier later : Text) :
    ¬SplitsPair earlier ('\r' :: later) := by
  rintro ⟨-, head⟩
  cases head

/-- A cut that separates a pair does so however much text comes before the pair. -/
theorem SplitsPair.cons
    {first second : Text}
    (splits : SplitsPair first second)
    (character : Char) :
    SplitsPair (character :: first) second := by
  obtain ⟨last, head⟩ := splits
  cases first with
  | nil =>
      cases last
  | cons next rest =>
      exact ⟨by rwa [List.getLast?_cons_cons], head⟩

theorem size_pair (rest : Text) : size ('\r' :: '\n' :: rest) = rest.size + 2 := by
  have returnSize : '\r'.utf8Size = 1 := rfl
  have feedSize : '\n'.utf8Size = 1 := rfl
  rw [size_cons, size_cons, returnSize, feedSize]
  omega

@[simp]
theorem lineBreaksFrom_nil (offset : Nat) : lineBreaksFrom offset [] = [] := by
  rw [lineBreaksFrom]

theorem lineBreaksFrom_pair
    (offset : Nat)
    (rest : Text) :
    lineBreaksFrom offset ('\r' :: '\n' :: rest) =
      ⟨offset, offset + 2⟩ :: lineBreaksFrom (offset + 2) rest := by
  rw [lineBreaksFrom]

/-- A first character that is not the first of a pair is a break by itself or none. -/
theorem lineBreaksFrom_cons
    {character : Char}
    {rest : Text}
    (whole : ¬SplitsPair [character] rest)
    (offset : Nat) :
    lineBreaksFrom offset (character :: rest) =
      (if isBreakCharacter character then [⟨offset, offset + character.utf8Size⟩] else []) ++
        lineBreaksFrom (offset + character.utf8Size) rest := by
  rw [lineBreaksFrom]
  · by_cases ends : isBreakCharacter character = true
    · have scanned : (character == '\r' || isLineEnd character) = true := ends
      simp [ends, scanned]
    · have scanned : ¬(character == '\r' || isLineEnd character) = true := ends
      simp [ends, scanned]
  · rintro later rfl rfl
    exact whole ⟨rfl, rfl⟩

/-- Follow the scan of a text for its breaks: a pair at a time, or a single character. -/
@[elab_as_elim]
theorem scan_induction
    {motive : Nat → Text → Prop}
    (nil : ∀ offset, motive offset [])
    (pair : ∀ offset rest, motive (offset + 2) rest → motive offset ('\r' :: '\n' :: rest))
    (single :
      ∀ offset character rest,
        ¬SplitsPair [character] rest →
        motive (offset + character.utf8Size) rest →
        motive offset (character :: rest))
    (offset : Nat)
    (text : Text) :
    motive offset text := by
  have whole
      {character : Char}
      {rest : Text}
      (unpaired : ∀ later, character = '\r' → rest = '\n' :: later → False) :
      ¬SplitsPair [character] rest := by
    rintro ⟨last, head⟩
    obtain ⟨later, rfl⟩ := List.head?_eq_some_iff.mp head
    exact unpaired later (Option.some.inj last) rfl
  induction offset, text using lineBreaksFrom.induct with
  | case1 offset =>
      exact nil offset
  | case2 offset rest inductionHypothesis =>
      exact pair offset rest inductionHypothesis
  | case3 offset character rest unpaired _ _ inductionHypothesis =>
      exact single offset character rest (whole unpaired) inductionHypothesis
  | case4 offset character rest unpaired _ _ inductionHypothesis =>
      exact single offset character rest (whole unpaired) inductionHypothesis

/-- The breaks of a text are those of its parts, as long as the cut separates no pair. -/
theorem lineBreaksFrom_append
    {first second : Text}
    (whole : ¬SplitsPair first second)
    (offset : Nat) :
    lineBreaksFrom offset (first ++ second) =
      lineBreaksFrom offset first ++ lineBreaksFrom (offset + first.size) second := by
  induction offset, first using scan_induction with
  | nil offset =>
      simp
  | pair offset rest inductionHypothesis =>
      have restWhole : ¬SplitsPair rest second :=
        fun splits => whole ((splits.cons '\n').cons '\r')
      have sizes : offset + size ('\r' :: '\n' :: rest) = offset + 2 + rest.size := by
        rw [size_pair]
        omega
      rw [List.cons_append, List.cons_append, lineBreaksFrom_pair, lineBreaksFrom_pair,
        inductionHypothesis restWhole, sizes, List.cons_append]
  | single offset character rest unpaired inductionHypothesis =>
      have restWhole : ¬SplitsPair rest second :=
        fun splits => whole (splits.cons character)
      have stillUnpaired : ¬SplitsPair [character] (rest ++ second) := by
        cases rest with
        | nil => exact whole
        | cons next later => exact unpaired
      rw [List.cons_append, lineBreaksFrom_cons stillUnpaired, lineBreaksFrom_cons unpaired,
        inductionHypothesis restWhole, size_cons, Nat.add_assoc, List.append_assoc]

/-- Further on in a file the breaks of a text are the same, moved along. -/
theorem lineBreaksFrom_add
    (offset distance : Nat)
    (text : Text) :
    lineBreaksFrom (offset + distance) text =
      (lineBreaksFrom offset text).map fun lineBreak => lineBreak.shift distance := by
  induction offset, text using scan_induction with
  | nil offset =>
      simp
  | pair offset rest inductionHypothesis =>
      rw [lineBreaksFrom_pair, lineBreaksFrom_pair, Nat.add_right_comm, inductionHypothesis]
      simp [Span.shift, Nat.add_right_comm]
  | single offset character rest unpaired inductionHypothesis =>
      rw [lineBreaksFrom_cons unpaired, lineBreaksFrom_cons unpaired, Nat.add_right_comm,
        inductionHypothesis]
      by_cases ends : isBreakCharacter character = true <;>
        simp [ends, Span.shift, Nat.add_right_comm]

/-- Breaks lie within their text and are not empty. -/
theorem bounds_of_mem_lineBreaksFrom
    {offset : Nat}
    {text : Text}
    {lineBreak : Span}
    (found : lineBreak ∈ lineBreaksFrom offset text) :
    offset ≤ lineBreak.start ∧
      lineBreak.start < lineBreak.stop ∧
      lineBreak.stop ≤ offset + text.size := by
  induction offset, text using scan_induction with
  | nil offset =>
      simp at found
  | pair offset rest inductionHypothesis =>
      rw [lineBreaksFrom_pair, List.mem_cons] at found
      rw [size_pair]
      rcases found with rfl | later
      · simp only
        omega
      · have bounds := inductionHypothesis later
        omega
  | single offset character rest unpaired inductionHypothesis =>
      have occupies := character.utf8Size_pos
      rw [lineBreaksFrom_cons unpaired, List.mem_append] at found
      rw [size_cons]
      rcases found with first | later
      · obtain rfl : lineBreak = ⟨offset, offset + character.utf8Size⟩ := by
          simpa using (List.mem_ite_nil_right.mp first).2
        simp only
        omega
      · have bounds := inductionHypothesis later
        omega

end VersionedText.Text
