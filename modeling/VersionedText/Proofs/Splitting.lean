import VersionedText.Proofs.Lines

namespace VersionedText

/-!
# Starts and ends of lines

The offsets at which the lines of a text start and at which their contents end
are determined by what lies between them: no break in a content, one whole break
between two lines, no break behind the last start.  A table lists these offsets,
and no other lists have all the properties.
-/

namespace Text

/-- The characters that end a line. -/
def breakCharacters : List Char :=
  ['\r', '\n', '\u0085', '\u2028', '\u2029']

/-- The breaks between two lines: a pair, or one of the characters alone. -/
def breakTexts : List Text :=
  ['\r', '\n'] :: breakCharacters.map fun character => [character]

/-- A line of the text starts and ends at the offsets, and behind its break starts the next. -/
structure LineAt (text : Text) (start stop next : Nat) : Prop where
  inOrder : start ≤ stop ∧ stop < next ∧ next ≤ text.size
  boundaries :
    text.isBoundary start = true ∧ text.isBoundary stop = true ∧ text.isBoundary next = true
  content : ∀ character ∈ text.between start stop, character ∉ breakCharacters
  lineBreak : text.between stop next ∈ breakTexts
  whole : text.between stop next = ['\r'] → (text.after next).head? ≠ some '\n'

/-- The last line of the text starts at the offset. -/
structure LastLineAt (text : Text) (start : Nat) : Prop where
  boundary : text.isBoundary start = true
  content : ∀ character ∈ text.after start, character ∉ breakCharacters

/-- From the first of the starts on, the lines of the text have these starts and ends. -/
structure Splits (text : Text) (starts ends : List Nat) : Prop where
  count : starts.length = ends.length + 1
  line :
    ∀ index start stop next,
      starts[index]? = some start →
      ends[index]? = some stop →
      starts[index + 1]? = some next →
      text.LineAt start stop next
  last : ∀ start, starts.getLast? = some start → text.LastLineAt start

theorem mem_breakCharacters_iff (character : Char) :
    character ∈ breakCharacters ↔ isBreakCharacter character = true := by
  simp only [breakCharacters, isBreakCharacter, isLineEnd, List.mem_cons, List.not_mem_nil,
    or_false, Bool.or_eq_true, beq_iff_eq, or_assoc]

theorem unbroken_iff (text : Text) :
    Unbroken text ↔ ∀ character ∈ text, character ∉ breakCharacters := by
  simp only [Unbroken, mem_breakCharacters_iff, Bool.not_eq_true]

theorem mem_breakTexts_iff (lineBreak : Text) :
    lineBreak ∈ breakTexts ↔ IsBreak lineBreak := by
  rw [breakTexts, List.mem_cons, List.mem_map]
  constructor
  · rintro (rfl | ⟨character, member, rfl⟩)
    · exact .pair
    · exact .single ((mem_breakCharacters_iff character).mp member)
  · intro isBreak
    cases isBreak with
    | pair => exact .inl rfl
    | @single character ends => exact .inr ⟨character, (mem_breakCharacters_iff _).mpr ends, rfl⟩

/-- Of all breaks only a carriage return alone can be the first half of a pair. -/
theorem IsBreak.not_splitsPair_iff
    {lineBreak : Text}
    (isBreak : lineBreak.IsBreak)
    (rest : Text) :
    ¬SplitsPair lineBreak rest ↔ (lineBreak = ['\r'] → rest.head? ≠ some '\n') := by
  cases isBreak with
  | pair =>
      exact iff_of_true (not_splitsPair_after_pair rest) (fun single => nomatch single)
  | single ends =>
      simp [SplitsPair]

@[simp]
theorem after_zero (text : Text) : text.after 0 = text := by
  cases text <;> simp [after]

/-- What lies between two boundaries leads up to what lies behind the second. -/
theorem between_append_after
    {text : Text}
    {start stop : Nat}
    (inOrder : start ≤ stop)
    (startBoundary : text.isBoundary start = true)
    (stopBoundary : text.isBoundary stop = true) :
    text.between start stop ++ text.after stop = text.after start ∧
      start + (text.between start stop).size = stop := by
  obtain ⟨head, middle, tail, rfl, rfl, rfl⟩ :=
    exists_parts_of_isBoundary inOrder startBoundary stopBoundary
  rw [between_append_size, ← size_append, after_append_size, size_append, List.append_assoc,
    after_append_size]
  exact ⟨rfl, rfl⟩

namespace LineAt

/-- The break of a line is the first that a scan finds from the start of the line on. -/
theorem lineBreaksFrom
    {text : Text}
    {start stop next : Nat}
    (line : text.LineAt start stop next) :
    (text.after start).lineBreaksFrom start =
      ⟨stop, next⟩ :: (text.after next).lineBreaksFrom next := by
  obtain ⟨startStop, stopNext, -⟩ := line.inOrder
  obtain ⟨startBoundary, stopBoundary, nextBoundary⟩ := line.boundaries
  have unbroken := (unbroken_iff _).mpr line.content
  have isBreak := (mem_breakTexts_iff _).mp line.lineBreak
  have whole := (isBreak.not_splitsPair_iff _).mpr line.whole
  obtain ⟨contentShape, contentSize⟩ := between_append_after startStop startBoundary stopBoundary
  obtain ⟨breakShape, breakSize⟩ :=
    between_append_after (Nat.le_of_lt stopNext) stopBoundary nextBoundary
  rw [← contentShape, ← breakShape, lineBreaksFrom_next unbroken isBreak whole, Line.size_mk,
    ← Nat.add_assoc, contentSize, breakSize]

/-- Behind any text there is a line of the content and the break that come next. -/
theorem of_append
    {content lineBreak rest : Text}
    (unbroken : Unbroken content)
    (isBreak : IsBreak lineBreak)
    (whole : ¬SplitsPair lineBreak rest)
    (earlier : Text) :
    (earlier ++ (content ++ (lineBreak ++ rest))).LineAt earlier.size
      (earlier ++ content).size (earlier ++ content ++ lineBreak).size := by
  have contentCut :
      slice? (earlier ++ (content ++ (lineBreak ++ rest))) earlier.size (earlier ++ content).size =
        some content :=
    slice?_eq_some_iff.mpr
      ⟨earlier, lineBreak ++ rest, by simp, rfl, (size_append earlier content).symm⟩
  have breakCut :
      slice? (earlier ++ (content ++ (lineBreak ++ rest))) (earlier ++ content).size
          (earlier ++ content ++ lineBreak).size =
        some lineBreak :=
    slice?_eq_some_iff.mpr
      ⟨earlier ++ content, rest, by simp, rfl, (size_append (earlier ++ content) lineBreak).symm⟩
  have behind :
      after (earlier ++ (content ++ (lineBreak ++ rest))) (earlier ++ content ++ lineBreak).size =
        rest := by
    rw [← List.append_assoc, ← List.append_assoc, after_append_size]
  have occupies := isBreak.size_pos
  refine ⟨?_, ?_, ?_, ?_, ?_⟩
  · simp only [size_append]
    omega
  · exact ⟨(isBoundary_of_slice? contentCut).1, isBoundary_of_slice? breakCut⟩
  · rw [between_of_slice? contentCut]
    exact (unbroken_iff content).mp unbroken
  · rw [between_of_slice? breakCut]
    exact (mem_breakTexts_iff lineBreak).mpr isBreak
  · rw [between_of_slice? breakCut, behind]
    exact (isBreak.not_splitsPair_iff rest).mp whole

end LineAt

namespace Splits

variable {text : Text} {start stop next : Nat} {starts ends : List Nat}

theorem singleton_iff :
    text.Splits [start] [] ↔ text.LastLineAt start := by
  constructor
  · intro splits
    exact splits.last start rfl
  · intro lastLine
    refine ⟨rfl, ?_, ?_⟩
    · rintro index _ stop _ _ ⟨⟩
    · intro other isLast
      obtain rfl := Option.some.inj isLast
      exact lastLine

/-- The first line is told from those behind it. -/
theorem cons_iff :
    text.Splits (start :: next :: starts) (stop :: ends) ↔
      text.LineAt start stop next ∧ text.Splits (next :: starts) ends := by
  constructor
  · rintro ⟨count, line, last⟩
    refine ⟨line 0 start stop next rfl rfl rfl, Nat.succ.inj count, ?_, ?_⟩
    · intro index
      exact line (index + 1)
    · intro other isLast
      refine last other ?_
      rwa [List.getLast?_cons_cons]
  · rintro ⟨first, count, line, last⟩
    refine ⟨congrArg Nat.succ count, ?_, ?_⟩
    · intro index lineStart lineStop lineNext startFound stopFound nextFound
      cases index with
      | zero =>
          obtain rfl := Option.some.inj startFound
          obtain rfl := Option.some.inj stopFound
          obtain rfl := Option.some.inj nextFound
          exact first
      | succ index =>
          exact line index lineStart lineStop lineNext startFound stopFound nextFound
    · intro other isLast
      rw [List.getLast?_cons_cons] at isLast
      exact last other isLast

/-- The breaks of the text from the first start on are the only ones that fit. -/
theorem lineBreaksFrom
    (splits : text.Splits (start :: starts) ends) :
    starts = ((text.after start).lineBreaksFrom start).map Span.stop ∧
      ends = ((text.after start).lineBreaksFrom start).map Span.start := by
  induction ends generalizing start starts with
  | nil =>
      obtain rfl := List.length_eq_zero_iff.mp (Nat.succ.inj splits.count)
      have unbroken := (unbroken_iff _).mpr (singleton_iff.mp splits).content
      rw [unbroken.lineBreaksFrom]
      exact ⟨rfl, rfl⟩
  | cons stop ends inductionHypothesis =>
      obtain ⟨next, starts, rfl⟩ := List.exists_cons_of_length_eq_add_one (Nat.succ.inj splits.count)
      obtain ⟨first, later⟩ := cons_iff.mp splits
      obtain ⟨startsLater, endsLater⟩ := inductionHypothesis later
      rw [first.lineBreaksFrom, List.map_cons, List.map_cons, ← startsLater, ← endsLater]
      exact ⟨rfl, rfl⟩

end Splits

/-- Behind any text, the breaks that a scan finds are the ones that fit. -/
theorem Lined.splits
    {text : Text}
    {lines : List Line}
    (lined : Lined text lines)
    (earlier : Text) :
    (earlier ++ text).Splits
      (earlier.size :: (text.lineBreaksFrom earlier.size).map Span.stop)
      ((text.lineBreaksFrom earlier.size).map Span.start) := by
  induction lined generalizing earlier with
  | @last content unbroken =>
      rw [unbroken.lineBreaksFrom]
      refine Splits.singleton_iff.mpr ⟨isBoundary_append_size earlier content, ?_⟩
      rw [after_append_size]
      exact (unbroken_iff content).mp unbroken
  | @next content lineBreak rest later unbroken isBreak whole _ inductionHypothesis =>
      have first := LineAt.of_append unbroken isBreak whole earlier
      have behind := inductionHypothesis (earlier ++ content ++ lineBreak)
      have sizes :
          (earlier ++ content ++ lineBreak).size =
            earlier.size + Line.size ⟨content, lineBreak⟩ := by
        rw [size_append, size_append, Line.size_mk, Nat.add_assoc]
      rw [List.append_assoc, List.append_assoc] at behind
      rw [lineBreaksFrom_next unbroken isBreak whole, ← size_append, ← sizes]
      exact Splits.cons_iff.mpr ⟨first, behind⟩

/--
The break that a character completes, if any, given the characters next to it: a
carriage return leaves a break to the line feed behind it.
-/
def breakAt?
    (previous : Option Char)
    (offset : Nat)
    (character : Char)
    (next : Option Char) :
    Option Span :=
  if character = '\r' ∧ next = some '\n' then
    none
  else if character = '\n' ∧ previous = some '\r' then
    some ⟨offset - 1, offset + 1⟩
  else if character ∈ breakCharacters then
    some ⟨offset, offset + character.utf8Size⟩
  else
    none

/-- The breaks that the characters of a text complete, one character after the other. -/
def breaksByCharacter : Option Char → Nat → Text → List Span
  | _, _, [] => []
  | previous, offset, character :: rest =>
      (breakAt? previous offset character rest.head?).toList ++
        breaksByCharacter (some character) (offset + character.utf8Size) rest

/-- Going by single characters finds the same breaks as going by pairs. -/
theorem breaksByCharacter_eq_lineBreaksFrom
    {previous : Option Char}
    (offset : Nat)
    (text : Text)
    (whole : ¬(previous = some '\r' ∧ text.head? = some '\n')) :
    breaksByCharacter previous offset text = lineBreaksFrom offset text := by
  induction offset, text using scan_induction generalizing previous with
  | nil offset =>
      rw [breaksByCharacter, lineBreaksFrom_nil]
  | pair offset rest inductionHypothesis =>
      have waits : breakAt? previous offset '\r' (some '\n') = none := rfl
      have completes :
          breakAt? (some '\r') (offset + '\r'.utf8Size) '\n' rest.head? =
            some ⟨offset, offset + 2⟩ := rfl
      have unled : ¬(some '\n' = some '\r' ∧ rest.head? = some '\n') := by
        rintro ⟨⟨⟩, -⟩
      rw [breaksByCharacter, breaksByCharacter, List.head?_cons, waits, completes,
        lineBreaksFrom_pair]
      exact congrArg (⟨offset, offset + 2⟩ :: ·) (inductionHypothesis unled)
  | single offset character rest unpaired inductionHypothesis =>
      have alone : ¬(character = '\r' ∧ rest.head? = some '\n') := by
        rintro ⟨rfl, head⟩
        exact unpaired ⟨rfl, head⟩
      have unled : ¬(character = '\n' ∧ previous = some '\r') := by
        rintro ⟨rfl, led⟩
        exact whole ⟨led, rfl⟩
      have restUnled : ¬(some character = some '\r' ∧ rest.head? = some '\n') := by
        rintro ⟨same, head⟩
        exact alone ⟨Option.some.inj same, head⟩
      rw [breaksByCharacter, breakAt?, if_neg alone, if_neg unled, inductionHypothesis restUnled,
        lineBreaksFrom_cons unpaired]
      by_cases ends : isBreakCharacter character = true
      · rw [if_pos ((mem_breakCharacters_iff character).mpr ends), if_pos ends]
        rfl
      · rw [if_neg (mt (mem_breakCharacters_iff character).mp ends), if_neg ends]
        rfl

end Text

namespace LineTable

/--
A table lists the breaks that the characters of its text complete.  Its starts
and ends split the text into lines from zero on, and no others do.
-/
theorem splits_iff_eq_ofText (text : Text) :
    (ofText text).breaks = Text.breaksByCharacter none 0 text ∧
      ∀ starts ends,
        starts[0]? = some 0 ∧ text.Splits starts ends ↔
          starts = (ofText text).starts ∧ ends = (ofText text).ends := by
  refine ⟨?_, ?_⟩
  · exact (Text.breaksByCharacter_eq_lineBreaksFrom 0 text (by simp)).symm
  · intro starts ends
    constructor
    · rintro ⟨fromZero, splits⟩
      obtain ⟨starts, rfl⟩ := List.head?_eq_some_iff.mp (List.head?_eq_getElem?.trans fromZero)
      obtain ⟨startsShape, endsShape⟩ := splits.lineBreaksFrom
      rw [Text.after_zero] at startsShape endsShape
      exact ⟨congrArg (0 :: ·) startsShape, endsShape⟩
    · rintro ⟨rfl, rfl⟩
      exact ⟨rfl, text.lined_lines.splits []⟩

end LineTable

end VersionedText
