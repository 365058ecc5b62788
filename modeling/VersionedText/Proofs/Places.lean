import VersionedText.Json.Decoder
import VersionedText.LineTable.Place
import VersionedText.Proofs.Lines

namespace VersionedText

/-!
# The places that editors name

An editor names a place by a line and a number of UTF-16 units into its content.
The position names an offset when so many units are those of some leading
characters, and every offset that is named so is named by one position only.
Positions and the offsets that they name come in the same order.  The only
boundaries without a name are those inside a pair of carriage return and line
feed.
-/

namespace EditorPosition

/-- The order of editors: by line, and within a line by column. -/
def Precedes (first second : EditorPosition) : Prop :=
  first.line < second.line ∨ first.line = second.line ∧ first.character < second.character

instance (first second : EditorPosition) : Decidable (first.Precedes second) :=
  inferInstanceAs (Decidable (_ ∨ _))

/-- Both numbers of a position are words, which is how editors send them. -/
def FitsWords (position : EditorPosition) : Prop :=
  position.line < Json.Decoder.wordBound ∧ position.character < Json.Decoder.wordBound

/-- Of two positions one precedes the other, unless they are the same. -/
theorem precedes_trichotomy (first second : EditorPosition) :
    first.Precedes second ∨ first = second ∨ second.Precedes first := by
  obtain ⟨firstLine, firstCharacter⟩ := first
  obtain ⟨secondLine, secondCharacter⟩ := second
  simp only [Precedes, EditorPosition.mk.injEq]
  omega

end EditorPosition

namespace Text

theorem characterUnits_pos (character : Char) : 0 < characterUnits character := by
  rw [characterUnits]
  split <;> omega

@[simp]
theorem units_eq_zero_iff
    (text : Text) :
    text.units = 0 ↔ text = [] := by
  cases text with
  | nil =>
      simp [units]
  | cons character rest =>
      have occupies := characterUnits_pos character
      simp only [units, reduceCtorEq, iff_false]
      omega

/-- Beyond the basic plane a character takes more than one byte. -/
theorem characterUnits_le_utf8Size (character : Char) :
    characterUnits character ≤ character.utf8Size := by
  have occupies := character.utf8Size_pos
  rw [characterUnits]
  split
  · exact occupies
  · rename_i beyond
    have several : character.utf8Size ≠ 1 := by
      intro single
      have small := Char.utf8Size_eq_one_iff.mp single
      exact beyond (Nat.lt_of_le_of_lt (UInt32.le_iff_toNat_le.mp small) (by decide))
    omega

/-- A text has no more UTF-16 units than bytes. -/
theorem units_le_size (text : Text) : text.units ≤ text.size := by
  induction text with
  | nil =>
      exact Nat.le_refl 0
  | cons character rest inductionHypothesis =>
      exact Nat.add_le_add (characterUnits_le_utf8Size character) inductionHypothesis

/-- Of two leading parts of a text, the one with fewer units has fewer bytes. -/
theorem size_lt_size_iff
    {first second firstTail secondTail : Text}
    (same : first ++ firstTail = second ++ secondTail) :
    first.size < second.size ↔ first.units < second.units := by
  have shorter (part rest : Text) :
      part.size < (part ++ rest).size ↔ part.units < (part ++ rest).units := by
    rw [size_append, units_append, Nat.lt_add_right_iff_pos, Nat.lt_add_right_iff_pos,
      Nat.pos_iff_ne_zero, Nat.pos_iff_ne_zero, Ne, Ne, size_eq_zero_iff, units_eq_zero_iff]
  rcases List.append_eq_append_iff.mp same with ⟨middle, rfl, -⟩ | ⟨middle, rfl, -⟩
  · exact shorter first middle
  · rw [size_append, units_append]
    omega

/-- Leading characters are found by their units. -/
theorem offsetOfUnits?_eq_some_iff
    {text : Text}
    {wanted distance : Nat} :
    text.offsetOfUnits? wanted = some distance ↔
      ∃ front back, text = front ++ back ∧ front.units = wanted ∧ front.size = distance := by
  induction text generalizing wanted distance with
  | nil =>
      simp only [offsetOfUnits?, Option.ite_none_right_eq_some, Option.some.injEq]
      constructor
      · rintro ⟨rfl, rfl⟩
        exact ⟨[], [], rfl, rfl, rfl⟩
      · rintro ⟨front, back, shape, rfl, rfl⟩
        obtain ⟨rfl, -⟩ := List.append_eq_nil_iff.mp shape.symm
        exact ⟨rfl, rfl⟩
  | cons character rest inductionHypothesis =>
      have occupies := characterUnits_pos character
      have firstOf
          {front back : Text}
          (shape : character :: rest = front ++ back)
          (begun : front.units ≠ 0) :
          ∃ others, front = character :: others ∧ rest = others ++ back := by
        rcases List.cons_eq_append_iff.mp shape with ⟨rfl, -⟩ | found
        · exact absurd rfl begun
        · exact found
      rw [offsetOfUnits?]
      by_cases atStart : wanted = 0
      · subst atStart
        rw [if_pos rfl, Option.some.injEq]
        constructor
        · rintro rfl
          exact ⟨[], character :: rest, rfl, rfl, rfl⟩
        · rintro ⟨front, back, -, none, rfl⟩
          obtain rfl := (units_eq_zero_iff front).mp none
          rfl
      by_cases inside : wanted < characterUnits character
      · rw [if_neg atStart, if_pos inside]
        constructor
        · rintro ⟨⟩
        · rintro ⟨front, back, shape, rfl, -⟩
          obtain ⟨others, rfl, -⟩ := firstOf shape atStart
          rw [units] at inside
          omega
      · rw [if_neg atStart, if_neg inside, Option.map_eq_some_iff]
        constructor
        · rintro ⟨further, found, rfl⟩
          obtain ⟨front, back, rfl, wantedLater, rfl⟩ := inductionHypothesis.mp found
          refine ⟨character :: front, back, rfl, ?_, rfl⟩
          rw [units]
          omega
        · rintro ⟨front, back, shape, rfl, rfl⟩
          obtain ⟨others, rfl, restShape⟩ := firstOf shape atStart
          refine ⟨size others, inductionHypothesis.mpr ⟨others, back, restShape, ?_, rfl⟩, rfl⟩
          rw [units, Nat.add_sub_cancel_left]

theorem offsetOfUnits?_eq_none_iff
    {text : Text}
    {wanted : Nat} :
    text.offsetOfUnits? wanted = none ↔
      ∀ front back, text = front ++ back → front.units ≠ wanted := by
  rw [Option.eq_none_iff_forall_ne_some]
  constructor
  · intro missing front back shape units
    exact missing front.size (offsetOfUnits?_eq_some_iff.mpr ⟨front, back, shape, units, rfl⟩)
  · intro missing distance found
    obtain ⟨front, back, shape, units, -⟩ := offsetOfUnits?_eq_some_iff.mp found
    exact missing front back shape units

/--
A front of the line reaches up to the offset.  It may go into the break of the
line, but not to the end of the break, where the next line starts.
-/
def Reaches (text : Text) (index : Nat) (front : Text) (offset : Nat) : Prop :=
  ∃ line back,
    text.lines[index]? = some line ∧
      line.content ++ line.lineBreak = front ++ back ∧
      front.size ≤ line.lastColumn ∧
      text.lineStart index + front.size = offset

/--
A position names an offset: some leading characters of the content of its line
are as many units long as its column, and the offset lies behind them.
-/
def Names (text : Text) (position : EditorPosition) (offset : Nat) : Prop :=
  ∃ line front back,
    text.lines[position.line]? = some line ∧
      line.content = front ++ back ∧
      front.units = position.character ∧
      text.lineStart position.line + front.size = offset

/-- A position names no offset, for the given cause. -/
inductive Misnames (text : Text) (position : EditorPosition) : Refusal → Prop where
  | missingLine :
      text.lines.length ≤ position.line →
      Misnames text position (.lineOutOfRange position.line text.lines.length)
  | missingColumn
      {line : Line} :
      text.lines[position.line]? = some line →
      (∀ front back, line.content = front ++ back → front.units ≠ position.character) →
      Misnames text position
        (.columnOutOfRange position.line position.character line.content.units)

theorem le_size_of_isBoundary
    {text : Text}
    {offset : Nat}
    (boundary : text.isBoundary offset = true) :
    offset ≤ text.size := by
  obtain ⟨head, tail, rfl, rfl⟩ := (isBoundary_iff_exists _ _).mp boundary
  rw [size_append]
  exact Nat.le_add_right _ _

/-- Every boundary of a text is accepted, and nothing else. -/
theorem checkOffset_eq_ok_iff
    {text : Text}
    {offset : Nat} :
    text.checkOffset offset = .ok () ↔ text.isBoundary offset = true := by
  rw [checkOffset]
  constructor
  · intro accepted
    split at accepted
    · cases accepted
    · split at accepted
      · assumption
      · cases accepted
  · intro boundary
    rw [if_neg (Nat.not_lt.mpr (le_size_of_isBoundary boundary)), if_pos boundary]

/-- Of a span between two boundaries only the order is judged. -/
theorem checkRange_of_isBoundary
    {text : Text}
    {start stop : Nat}
    (startBoundary : text.isBoundary start = true)
    (stopBoundary : text.isBoundary stop = true) :
    text.checkRange start stop =
      if stop < start then .error (.rangeOutOfRange start stop text.size) else .ok () := by
  have inText := Nat.not_lt.mpr (le_size_of_isBoundary stopBoundary)
  rw [checkRange]
  by_cases inverted : stop < start
  · rw [if_pos (.inl inverted), if_pos inverted]
  · rw [if_neg (not_or.mpr ⟨inverted, inText⟩), if_neg inverted, startBoundary, stopBoundary]
    rfl

instance (first second : Text) : Decidable (SplitsPair first second) :=
  inferInstanceAs (Decidable (_ ∧ _))

/-- An offset between a carriage return and the line feed of the same break. -/
def InsidePair (text : Text) (offset : Nat) : Prop :=
  text.isBoundary offset = true ∧ SplitsPair (text.before offset) (text.after offset)

instance (text : Text) (offset : Nat) : Decidable (text.InsidePair offset) :=
  inferInstanceAs (Decidable (_ ∧ _))

namespace Reaches

variable {text front : Text} {index offset : Nat}

/-- The front that reaches up to an offset can be cut out of the text. -/
theorem slice?
    (reaches : text.Reaches index front offset) :
    text.slice? (text.lineStart index) offset = some front := by
  obtain ⟨line, back, found, shape, -, rfl⟩ := reaches
  exact text.lined_lines.slice?_front found shape

theorem isBoundary
    (reaches : text.Reaches index front offset) :
    text.isBoundary offset = true :=
  (isBoundary_of_slice? reaches.slice?).2

/-- Neither the line nor the column is larger than the text. -/
theorem le_size
    (reaches : text.Reaches index front offset) :
    index ≤ text.size ∧ front.units ≤ text.size := by
  have inText := le_size_of_isBoundary reaches.isBoundary
  obtain ⟨line, back, found, -, -, rfl⟩ := reaches
  have lines := text.lined_lines.le_startOf (List.getElem?_eq_some_iff.mp found).1
  have columns := front.units_le_size
  rw [lineStart] at inText
  omega

/-- In a short text, what is told to an editor are words. -/
theorem fitsWords
    (reaches : text.Reaches index front offset)
    (short : text.size < Json.Decoder.wordBound) :
    (⟨index, front.units⟩ : EditorPosition).FitsWords :=
  ⟨Nat.lt_of_le_of_lt reaches.le_size.1 short, Nat.lt_of_le_of_lt reaches.le_size.2 short⟩

end Reaches

namespace Names

variable {text : Text}

/-- What a position names is reached by a front of the content of its line. -/
theorem exists_reaches
    {position : EditorPosition}
    {offset : Nat}
    (names : text.Names position offset) :
    ∃ front, text.Reaches position.line front offset ∧ front.units = position.character := by
  obtain ⟨line, front, back, found, content, units, sum⟩ := names
  refine ⟨front, ⟨line, back ++ line.lineBreak, found, ?_, ?_, sum⟩, units⟩
  · rw [content, List.append_assoc]
  · rw [Line.lastColumn, content, size_append]
    omega

/-- A text is cut at the offset that a position names. -/
theorem isBoundary
    {position : EditorPosition}
    {offset : Nat}
    (names : text.Names position offset) :
    text.isBoundary offset = true := by
  obtain ⟨front, reaches, -⟩ := names.exists_reaches
  exact reaches.isBoundary

/-- Positions name offsets in their order. -/
theorem lt_of_precedes
    {first second : EditorPosition}
    {firstOffset secondOffset : Nat}
    (firstNames : text.Names first firstOffset)
    (secondNames : text.Names second secondOffset)
    (precedes : first.Precedes second) :
    firstOffset < secondOffset := by
  obtain ⟨firstLine, front, back, firstFound, firstContent, firstUnits, rfl⟩ := firstNames
  obtain ⟨secondLine, other, otherBack, secondFound, secondContent, secondUnits, rfl⟩ :=
    secondNames
  rcases precedes with earlierLine | ⟨sameLine, earlierColumn⟩
  · have inRange := (List.getElem?_eq_some_iff.mp secondFound).1
    have apart :=
      text.lined_lines.startOf_add_lastColumn_lt_startOf firstFound earlierLine inRange
    rw [Line.lastColumn, firstContent, size_append] at apart
    rw [lineStart, lineStart]
    omega
  · rw [sameLine, secondFound] at firstFound
    obtain rfl := Option.some.inj firstFound
    have shorter := (size_lt_size_iff (firstContent.symm.trans secondContent)).mpr
    rw [firstUnits, secondUnits] at shorter
    rw [sameLine]
    exact Nat.add_lt_add_left (shorter earlierColumn) _

/-- A position names one offset at most. -/
theorem unique
    {position : EditorPosition}
    {first second : Nat}
    (firstNames : text.Names position first)
    (secondNames : text.Names position second) :
    first = second := by
  obtain ⟨firstLine, front, back, firstFound, firstContent, firstUnits, rfl⟩ := firstNames
  obtain ⟨secondLine, other, otherBack, secondFound, secondContent, secondUnits, rfl⟩ :=
    secondNames
  rw [secondFound] at firstFound
  obtain rfl := Option.some.inj firstFound
  have firstSize := offsetOfUnits?_eq_some_iff.mpr ⟨front, back, firstContent, firstUnits, rfl⟩
  have secondSize :=
    offsetOfUnits?_eq_some_iff.mpr ⟨other, otherBack, secondContent, secondUnits, rfl⟩
  rw [Option.some.inj (firstSize.symm.trans secondSize)]

/-- One named offset lies before another exactly when its position precedes. -/
theorem lt_iff_precedes
    {first second : EditorPosition}
    {firstOffset secondOffset : Nat}
    (firstNames : text.Names first firstOffset)
    (secondNames : text.Names second secondOffset) :
    firstOffset < secondOffset ↔ first.Precedes second := by
  refine ⟨?_, firstNames.lt_of_precedes secondNames⟩
  intro before
  rcases first.precedes_trichotomy second with precedes | rfl | follows
  · exact precedes
  · rw [firstNames.unique secondNames] at before
    exact absurd before (Nat.lt_irrefl _)
  · have after := secondNames.lt_of_precedes firstNames follows
    exact absurd before (Nat.lt_asymm after)

theorem fitsWords
    {position : EditorPosition}
    {offset : Nat}
    (names : text.Names position offset)
    (short : text.size < Json.Decoder.wordBound) :
    position.FitsWords := by
  obtain ⟨front, reaches, units⟩ := names.exists_reaches
  have words := reaches.fitsWords short
  rwa [units] at words

end Names

/-- Every boundary that is not inside a pair has a name. -/
theorem exists_names
    {text : Text}
    {offset : Nat}
    (boundary : text.isBoundary offset = true)
    (outside : ¬text.InsidePair offset) :
    ∃ position, text.Names position offset := by
  have whole : ¬SplitsPair (text.before offset) (text.after offset) :=
    fun splits => outside ⟨boundary, splits⟩
  obtain ⟨index, line, front, back, found, content, size⟩ :=
    text.lined_lines.exists_line_of_cut (before_append_after text offset).symm whole
  rw [(isBoundary_iff_size_before text offset).mp boundary] at size
  exact ⟨⟨index, front.units⟩, line, front, back, found, content, rfl, size.symm⟩

end Text

namespace LineTable

variable {text : Text} {position : EditorPosition}

/-- On a line that there is, a position is resolved by the content of the line. -/
theorem offsetOfEditorPosition_of_line
    {line : Line}
    (found : text.lines[position.line]? = some line) :
    (ofText text).offsetOfEditorPosition text position =
      match line.content.offsetOfUnits? position.character with
      | some distance => .ok (text.lineStart position.line + distance)
      | none =>
          .error (.columnOutOfRange position.line position.character line.content.units) := by
  have inRange := (List.getElem?_eq_some_iff.mp found).1
  rw [offsetOfEditorPosition, lineStart_ofText, if_pos inRange]
  cases measured : line.content.offsetOfUnits? position.character <;>
    simp only [bind, Except.bind, between_line found, measured]

theorem offsetOfEditorPosition_of_missing
    (missing : text.lines.length ≤ position.line) :
    (ofText text).offsetOfEditorPosition text position =
      .error (.lineOutOfRange position.line text.lines.length) := by
  rw [offsetOfEditorPosition, lineStart_ofText, if_neg (Nat.not_lt.mpr missing)]
  rfl

/-- A table resolves a position to the offset that it names. -/
theorem offsetOfEditorPosition_eq_ok_iff
    {offset : Nat} :
    (ofText text).offsetOfEditorPosition text position = .ok offset ↔
      text.Names position offset := by
  constructor
  · intro resolved
    cases found : text.lines[position.line]? with
    | none =>
        rw [offsetOfEditorPosition_of_missing (List.getElem?_eq_none_iff.mp found)] at resolved
        cases resolved
    | some line =>
        rw [offsetOfEditorPosition_of_line found] at resolved
        cases measured : line.content.offsetOfUnits? position.character with
        | none =>
            rw [measured] at resolved
            cases resolved
        | some distance =>
            rw [measured] at resolved
            obtain ⟨front, back, content, units, rfl⟩ :=
              Text.offsetOfUnits?_eq_some_iff.mp measured
            exact ⟨line, front, back, found, content, units, Except.ok.inj resolved⟩
  · rintro ⟨line, front, back, found, content, units, rfl⟩
    have measured :=
      Text.offsetOfUnits?_eq_some_iff.mpr ⟨front, back, content, units, rfl⟩
    rw [offsetOfEditorPosition_of_line found, measured]

/-- A table refuses a position that names no offset, and gives the cause. -/
theorem offsetOfEditorPosition_eq_error_iff
    {refusal : Refusal} :
    (ofText text).offsetOfEditorPosition text position = .error refusal ↔
      text.Misnames position refusal := by
  constructor
  · intro refused
    cases found : text.lines[position.line]? with
    | none =>
        have missing := List.getElem?_eq_none_iff.mp found
        rw [offsetOfEditorPosition_of_missing missing] at refused
        obtain rfl := Except.error.inj refused
        exact .missingLine missing
    | some line =>
        rw [offsetOfEditorPosition_of_line found] at refused
        cases measured : line.content.offsetOfUnits? position.character with
        | none =>
            rw [measured] at refused
            obtain rfl := Except.error.inj refused
            exact .missingColumn found (Text.offsetOfUnits?_eq_none_iff.mp measured)
        | some distance =>
            rw [measured] at refused
            cases refused
  · rintro (missing | ⟨found, missing⟩)
    · exact offsetOfEditorPosition_of_missing missing
    · rw [offsetOfEditorPosition_of_line found, Text.offsetOfUnits?_eq_none_iff.mpr missing]

theorem isBoundary_of_editorPositionOf
    {table : LineTable}
    {offset : Nat}
    (told : table.editorPositionOf text offset = .ok position) :
    text.isBoundary offset = true := by
  rw [← Text.checkOffset_eq_ok_iff]
  rw [editorPositionOf] at told
  cases checked : text.checkOffset offset with
  | error refusal =>
      rw [checked] at told
      cases told
  | ok accepted =>
      rfl

/-- A range is told of an ordered span, and its two ends are told of the ends of the span. -/
theorem editorRangeOf_eq_ok_iff
    {table : LineTable}
    {span : Span}
    {range : EditorRange} :
    table.editorRangeOf text span = .ok range ↔
      span.start ≤ span.stop ∧
        table.editorPositionOf text span.start = .ok range.start ∧
        table.editorPositionOf text span.stop = .ok range.stop := by
  constructor
  · intro told
    rw [editorRangeOf] at told
    cases checked : text.checkRange span.start span.stop with
    | error refusal =>
        rw [checked] at told
        cases told
    | ok accepted =>
        obtain ⟨head, removed, tail, -, startSize, stopSize⟩ :=
          (Text.checkRange_eq_ok_iff _ _ _).mp checked
        have inOrder : span.start ≤ span.stop := by omega
        cases startTold : table.editorPositionOf text span.start with
        | error refusal =>
            rw [checked, startTold] at told
            cases told
        | ok start =>
            cases stopTold : table.editorPositionOf text span.stop with
            | error refusal =>
                rw [checked, startTold, stopTold] at told
                cases told
            | ok stop =>
                rw [checked, startTold, stopTold] at told
                obtain rfl := Except.ok.inj told
                exact ⟨inOrder, rfl, rfl⟩
  · rintro ⟨inOrder, startTold, stopTold⟩
    have startBoundary := isBoundary_of_editorPositionOf startTold
    have stopBoundary := isBoundary_of_editorPositionOf stopTold
    rw [editorRangeOf, Text.checkRange_of_isBoundary startBoundary stopBoundary,
      if_neg (Nat.not_lt.mpr inOrder), startTold, stopTold]
    rfl

/-- The position of an offset counts the units of its line that are in front of the offset. -/
theorem editorPositionOf_of_reaches
    {index offset : Nat}
    {front : Text}
    (reaches : text.Reaches index front offset) :
    (ofText text).editorPositionOf text offset = .ok ⟨index, front.units⟩ := by
  have accepted := Text.checkOffset_eq_ok_iff.mpr reaches.isBoundary
  have cut := Text.between_of_slice? reaches.slice?
  obtain ⟨line, back, found, -, within, rfl⟩ := reaches
  rw [editorPositionOf, accepted, startOfLineContaining_ofText found within,
    lineContaining_ofText found within]
  simp only [bind, Except.bind, cut]
  rfl

/-- A table finds the position that names an offset. -/
theorem editorPositionOf_of_names
    {offset : Nat}
    (names : text.Names position offset) :
    (ofText text).editorPositionOf text offset = .ok position := by
  obtain ⟨front, reaches, units⟩ := names.exists_reaches
  rw [editorPositionOf_of_reaches reaches, units]

end LineTable

/-- Every position names an offset or has a cause for naming none. -/
theorem Text.names_or_misnames
    (text : Text)
    (position : EditorPosition) :
    (∃ offset, text.Names position offset) ∨ ∃ refusal, text.Misnames position refusal := by
  cases resolved : (LineTable.ofText text).offsetOfEditorPosition text position with
  | ok offset => exact .inl ⟨offset, LineTable.offsetOfEditorPosition_eq_ok_iff.mp resolved⟩
  | error refusal =>
      exact .inr ⟨refusal, LineTable.offsetOfEditorPosition_eq_error_iff.mp resolved⟩

end VersionedText
