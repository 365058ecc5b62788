import VersionedText.Proofs.Columns

namespace VersionedText

/-!
# Offsets told to editors

For every boundary of a text a table tells a position, and from the position the
boundary is found again, unless it is inside a pair.  From a position that names
an offset the table finds the offset, and from the offset the position.  All
other positions lack their line or their column.  No part is cut out of the text
on the way but between two boundaries in order.
-/

namespace Text

/-- Every boundary is reached by a front of its line, for it lies between the ends of the line. -/
theorem exists_reaches
    {text : Text}
    {offset : Nat}
    (boundary : text.isBoundary offset = true) :
    ∃ index front, text.Reaches index front offset := by
  obtain ⟨place, line, found, within, sum⟩ := exists_locates (le_size_of_isBoundary boundary)
  obtain ⟨earlier, later, shape, size, -⟩ := text.lined_lines.exists_parts found
  obtain ⟨head, tail, cut, headSize⟩ := (isBoundary_iff_exists _ _).mp boundary
  rw [lineStart, ← size] at sum
  have sameText : earlier ++ (line.content ++ line.lineBreak ++ later) = head ++ tail := by
    rw [← cut, shape]
    simp only [List.append_assoc]
  obtain ⟨front, rfl, onward⟩ := exists_append_of_size_le sameText (by omega)
  have frontSize : front.size = place.column := by
    rw [size_append] at headSize
    omega
  have beforeEnd : front.size ≤ (line.content ++ line.lineBreak).size := by
    rw [frontSize, size_append]
    exact Nat.le_trans within line.lastColumn_le_size
  obtain ⟨back, lineShape, -⟩ := exists_append_of_size_le onward.symm beforeEnd
  refine ⟨place.line, front, line, back, found, lineShape, ?_, ?_⟩
  · rw [frontSize]
    exact within
  · rw [frontSize, lineStart, ← size]
    exact sum

/-- Fronts of lines come in the order of the offsets up to which they reach. -/
theorem Reaches.precedes
    {text firstFront secondFront : Text}
    {firstIndex secondIndex first second : Nat}
    (firstReaches : text.Reaches firstIndex firstFront first)
    (secondReaches : text.Reaches secondIndex secondFront second)
    (before : first < second) :
    EditorPosition.Precedes ⟨firstIndex, firstFront.units⟩ ⟨secondIndex, secondFront.units⟩ := by
  obtain ⟨firstLine, firstBack, firstFound, firstShape, firstWithin, firstSum⟩ := firstReaches
  obtain ⟨secondLine, secondBack, secondFound, secondShape, secondWithin, secondSum⟩ :=
    secondReaches
  have firstLocates : text.Locates ⟨firstIndex, firstFront.size⟩ first :=
    ⟨firstLine, firstFound, firstWithin, firstSum⟩
  have secondLocates : text.Locates ⟨secondIndex, secondFront.size⟩ second :=
    ⟨secondLine, secondFound, secondWithin, secondSum⟩
  rcases firstLocates.precedes secondLocates before with earlier | ⟨same, shorter⟩
  · exact .inl earlier
  · obtain rfl : firstIndex = secondIndex := same
    rw [firstFound] at secondFound
    obtain rfl := Option.some.inj secondFound
    exact .inr ⟨rfl, (size_lt_size_iff (firstShape.symm.trans secondShape)).mp shorter⟩

/-- A text is cut where a front of one of its lines ends, and around the line nothing is split. -/
theorem exists_cut
    {text front back : Text}
    {index : Nat}
    {line : Line}
    (found : text.lines[index]? = some line)
    (shape : line.content ++ line.lineBreak = front ++ back) :
    ∃ earlier later,
      Surrounds earlier line later ∧
        text.before (text.lineStart index + front.size) = earlier ++ front ∧
        text.after (text.lineStart index + front.size) = back ++ later := by
  obtain ⟨earlier, later, textShape, size, surrounds⟩ := text.lined_lines.exists_parts found
  have cut : text = (earlier ++ front) ++ (back ++ later) := by
    have lineShape : text = earlier ++ (line.content ++ line.lineBreak) ++ later := by
      simp only [textShape, List.append_assoc]
    rw [lineShape, shape]
    simp only [List.append_assoc]
  have sum : text.lineStart index + front.size = (earlier ++ front).size := by
    rw [size_append, size, lineStart]
  refine ⟨earlier, later, surrounds, ?_, ?_⟩
  · rw [sum, cut, before_append_size]
  · rw [sum, cut, after_append_size]

/-- What a position names is not inside a pair: the content of a line has neither half of one. -/
theorem Names.not_insidePair
    {text : Text}
    {position : EditorPosition}
    {offset : Nat}
    (names : text.Names position offset) :
    ¬text.InsidePair offset := by
  rintro ⟨-, splits⟩
  obtain ⟨line, front, back, found, content, -, rfl⟩ := names
  have shape : line.content ++ line.lineBreak = front ++ (back ++ line.lineBreak) := by
    rw [content, List.append_assoc]
  obtain ⟨earlier, later, surrounds, before, after⟩ := exists_cut found shape
  rw [before, after, List.append_assoc] at splits
  have unbroken := surrounds.unbroken
  have opened := surrounds.opened
  rw [content] at unbroken opened
  cases front with
  | cons first others =>
      have last := List.mem_of_getLast? (splits.of_append (List.cons_ne_nil first others)).1
      have noBreak := unbroken '\r' (List.mem_append_left back last)
      cases noBreak
  | nil =>
      cases back with
      | cons next others =>
          obtain rfl := Option.some.inj splits.2
          have noBreak := unbroken '\n' List.mem_cons_self
          cases noBreak
      | nil =>
          rw [List.append_nil] at splits
          exact opened splits

/-- A front that goes into the break of its line cuts a pair, and is too long for a column. -/
theorem Reaches.names_or_insidePair
    {text front : Text}
    {index offset : Nat}
    (reaches : text.Reaches index front offset) :
    text.Names ⟨index, front.units⟩ offset ∨
      text.InsidePair offset ∧
        ∃ line, text.lines[index]? = some line ∧ line.content.units < front.units := by
  have boundary := reaches.isBoundary
  obtain ⟨line, back, found, shape, within, rfl⟩ := reaches
  rcases List.append_eq_append_iff.mp shape with
      ⟨inside, rfl, breakShape⟩ | ⟨others, contentShape, -⟩
  · by_cases nothing : inside = []
    · subst nothing
      exact .inl ⟨line, line.content, [], found, by simp, by simp, by simp⟩
    · have insideSize : size inside ≠ 0 := fun none => nothing ((size_eq_zero_iff inside).mp none)
      have insideUnits : units inside ≠ 0 :=
        fun none => nothing ((units_eq_zero_iff inside).mp none)
      have unfinished : back ≠ [] := by
        rintro rfl
        rw [List.append_nil] at breakShape
        rw [Line.lastColumn, breakShape, size_append] at within
        omega
      obtain ⟨earlier, later, surrounds, before, after⟩ := exists_cut found shape
      rcases surrounds.ended with ⟨isBreak, -⟩ | ⟨noBreak, -⟩
      · have splits := isBreak.splitsPair breakShape nothing unfinished
        refine .inr ⟨⟨boundary, ?_⟩, line, found, ?_⟩
        · rw [before, after, ← List.append_assoc]
          exact splits.append (earlier ++ line.content) later
        · rw [units_append]
          omega
      · rw [noBreak] at breakShape
        exact absurd (List.append_eq_nil_iff.mp breakShape.symm).1 nothing
  · exact .inl ⟨line, front, others, found, contentShape, rfl, rfl⟩

/--
The columns that the content of a line lacks: those past its end, and those
between the two units of a character.
-/
def LacksColumn (content : Text) (column : Nat) : Prop :=
  content.units < column ∨
    ∃ front character back,
      content = front ++ character :: back ∧
        characterUnits character = 2 ∧
        column = units front + 1

theorem characterUnits_le_two (character : Char) : characterUnits character ≤ 2 := by
  rw [characterUnits]
  split <;> omega

/-- A column is lacking when no leading characters are as many units long. -/
theorem lacksColumn_iff
    {content : Text}
    {column : Nat} :
    content.LacksColumn column ↔
      ∀ front back, content = front ++ back → front.units ≠ column := by
  constructor
  · rintro (beyond | ⟨short, character, others, rfl, twoUnits, rfl⟩) front back shape
    · rw [shape, units_append] at beyond
      omega
    · rcases List.append_eq_append_iff.mp shape with ⟨more, rfl, behind⟩ | ⟨more, rfl, -⟩
      · rw [units_append]
        cases more with
        | nil =>
            rw [units]
            omega
        | cons next later =>
            obtain ⟨rfl, -⟩ := List.cons.inj behind
            rw [units]
            omega
      · rw [units_append]
        omega
  · intro missing
    induction content generalizing column with
    | nil =>
        have positive := Nat.pos_of_ne_zero (missing [] [] rfl).symm
        exact .inl positive
    | cons character rest inductionHypothesis =>
        have positive := Nat.pos_of_ne_zero (missing [] (character :: rest) rfl).symm
        have atMostTwo := characterUnits_le_two character
        by_cases inside : column < characterUnits character
        · refine .inr ⟨[], character, rest, rfl, ?_, ?_⟩
          · omega
          · rw [units]
            omega
        · have restMissing :
              ∀ front back, rest = front ++ back →
                units front ≠ column - characterUnits character := by
            intro front back shape same
            refine missing (character :: front) back (by rw [shape]; rfl) ?_
            rw [units]
            omega
          rcases inductionHypothesis restMissing with
              beyond | ⟨front, next, back, rfl, twoUnits, sum⟩
          · refine .inl ?_
            rw [units]
            omega
          · refine .inr ⟨character :: front, next, back, rfl, twoUnits, ?_⟩
            rw [units]
            omega

end Text

namespace EditorPosition

theorem not_precedes_of_precedes
    {first second : EditorPosition}
    (precedes : first.Precedes second) :
    ¬second.Precedes first := by
  simp only [Precedes] at precedes ⊢
  omega

theorem not_precedes_self (position : EditorPosition) : ¬position.Precedes position :=
  fun precedes => not_precedes_of_precedes precedes precedes

end EditorPosition

namespace LineTable

section Told

variable {text : Text} {offset : Nat} {position : EditorPosition}

/-- The position that a table tells counts the units of the front that reaches up to the offset. -/
theorem editorPositionOf_eq_ok_iff :
    (ofText text).editorPositionOf text offset = .ok position ↔
      ∃ front, text.Reaches position.line front offset ∧ front.units = position.character := by
  constructor
  · intro told
    obtain ⟨index, front, reaches⟩ := Text.exists_reaches (isBoundary_of_editorPositionOf told)
    rw [editorPositionOf_of_reaches reaches] at told
    obtain rfl := Except.ok.inj told
    exact ⟨front, reaches, rfl⟩
  · rintro ⟨front, reaches, units⟩
    rw [editorPositionOf_of_reaches reaches, units]

theorem exists_editorPositionOf
    (boundary : text.isBoundary offset = true) :
    ∃ told, (ofText text).editorPositionOf text offset = .ok told := by
  obtain ⟨index, front, reaches⟩ := Text.exists_reaches boundary
  exact ⟨⟨index, front.units⟩, editorPositionOf_of_reaches reaches⟩

/-- Larger offsets are told later positions. -/
theorem precedes_of_editorPositionOf
    {first second : Nat}
    {firstPosition secondPosition : EditorPosition}
    (firstTold : (ofText text).editorPositionOf text first = .ok firstPosition)
    (secondTold : (ofText text).editorPositionOf text second = .ok secondPosition)
    (before : first < second) :
    firstPosition.Precedes secondPosition := by
  obtain ⟨firstFront, firstReaches, firstUnits⟩ := editorPositionOf_eq_ok_iff.mp firstTold
  obtain ⟨secondFront, secondReaches, secondUnits⟩ := editorPositionOf_eq_ok_iff.mp secondTold
  have precedes := firstReaches.precedes secondReaches before
  rwa [firstUnits, secondUnits] at precedes

/-- The stop of a range that is told does not precede its start. -/
theorem not_precedes_of_editorRangeOf
    {span : Span}
    {range : EditorRange}
    (told : (ofText text).editorRangeOf text span = .ok range) :
    ¬range.stop.Precedes range.start := by
  obtain ⟨inOrder, startTold, stopTold⟩ := editorRangeOf_eq_ok_iff.mp told
  rcases Nat.eq_or_lt_of_le inOrder with same | before
  · rw [same, stopTold] at startTold
    have sameEnds := Except.ok.inj startTold
    rw [sameEnds]
    exact EditorPosition.not_precedes_self range.start
  · exact EditorPosition.not_precedes_of_precedes
      (precedes_of_editorPositionOf startTold stopTold before)

/-- From the position that is told of an offset outside all pairs the offset is found again. -/
theorem offsetOfEditorPosition_of_told
    (told : (ofText text).editorPositionOf text offset = .ok position)
    (outside : ¬text.InsidePair offset) :
    (ofText text).offsetOfEditorPosition text position = .ok offset := by
  obtain ⟨front, reaches, units⟩ := editorPositionOf_eq_ok_iff.mp told
  rcases reaches.names_or_insidePair with names | ⟨inside, -⟩
  · rw [units] at names
    exact offsetOfEditorPosition_eq_ok_iff.mpr names
  · exact absurd inside outside

/-- Inside a pair a column past the content of the line is told. -/
theorem exists_units_lt_of_insidePair
    (told : (ofText text).editorPositionOf text offset = .ok position)
    (inside : text.InsidePair offset) :
    ∃ line, text.lines[position.line]? = some line ∧ line.content.units < position.character := by
  obtain ⟨front, reaches, units⟩ := editorPositionOf_eq_ok_iff.mp told
  rcases reaches.names_or_insidePair with names | ⟨-, beyond⟩
  · exact absurd inside names.not_insidePair
  · rwa [units] at beyond

/-- On a line that there is, a position is refused for its column or names an offset. -/
theorem offsetOfEditorPosition_of_lacksColumn
    {line : Line}
    (found : text.lines[position.line]? = some line)
    (lacking : line.content.LacksColumn position.character) :
    (ofText text).offsetOfEditorPosition text position =
      .error (.columnOutOfRange position.line position.character line.content.units) :=
  offsetOfEditorPosition_eq_error_iff.mpr
    (.missingColumn found (Text.lacksColumn_iff.mp lacking))

theorem exists_offsetOfEditorPosition
    {line : Line}
    (found : text.lines[position.line]? = some line)
    (present : ¬line.content.LacksColumn position.character) :
    ∃ named, (ofText text).offsetOfEditorPosition text position = .ok named := by
  rcases text.names_or_misnames position with ⟨named, names⟩ | ⟨refusal, misnames⟩
  · exact ⟨named, offsetOfEditorPosition_eq_ok_iff.mpr names⟩
  · cases misnames with
    | missingLine missing =>
        have inRange := (List.getElem?_eq_some_iff.mp found).1
        exact absurd inRange (Nat.not_lt.mpr missing)
    | @missingColumn other otherFound missing =>
        obtain rfl := Option.some.inj (found.symm.trans otherFound)
        exact absurd (Text.lacksColumn_iff.mpr missing) present

end Told

/-- How a table converts between the boundaries of a text and the positions of editors. -/
structure Converts (table : LineTable) (text : Text) : Prop where
  /-- Exactly the boundaries of the text have a position. -/
  told :
    ∀ offset,
      (∃ position, table.editorPositionOf text offset = .ok position) ↔
        offset ≤ text.size ∧ text.isBoundary offset = true
  words :
    ∀ offset position,
      table.editorPositionOf text offset = .ok position →
      position.FitsWords
  precedes :
    ∀ first second firstPosition secondPosition,
      table.editorPositionOf text first = .ok firstPosition →
      table.editorPositionOf text second = .ok secondPosition →
      first < second →
      firstPosition.Precedes secondPosition
  /-- Exactly the spans between boundaries have a range, and no range is inverted. -/
  rangeTold :
    ∀ span,
      (∃ range, table.editorRangeOf text span = .ok range) ↔
        span.start ≤ span.stop ∧
          text.isBoundary span.start = true ∧ text.isBoundary span.stop = true
  rangeInOrder :
    ∀ span range,
      table.editorRangeOf text span = .ok range →
      ¬range.stop.Precedes range.start
  /-- From a position that was told the offset is found again, unless it is inside a pair. -/
  foundAgain :
    ∀ offset position,
      table.editorPositionOf text offset = .ok position →
      ¬text.InsidePair offset →
      table.offsetOfEditorPosition text position = .ok offset
  insidePair :
    ∀ offset position,
      table.editorPositionOf text offset = .ok position →
      text.InsidePair offset →
      ∃ line,
        text.lines[position.line]? = some line ∧
          table.offsetOfEditorPosition text position =
            .error (.columnOutOfRange position.line position.character line.content.units)
  /-- From an offset that was found, in the content of its line, the position is told again. -/
  toldAgain :
    ∀ position offset,
      table.offsetOfEditorPosition text position = .ok offset →
      ∃ line,
        text.lines[position.line]? = some line ∧
          text.isBoundary offset = true ∧
          text.lineStart position.line ≤ offset ∧
          offset ≤ text.lineStart position.line + line.content.size ∧
          table.editorPositionOf text offset = .ok position
  missingLine :
    ∀ position,
      text.lines.length ≤ position.line →
      table.offsetOfEditorPosition text position =
        .error (.lineOutOfRange position.line text.lines.length)
  missingColumn :
    ∀ position line,
      text.lines[position.line]? = some line →
      line.content.LacksColumn position.character →
      table.offsetOfEditorPosition text position =
        .error (.columnOutOfRange position.line position.character line.content.units)
  found :
    ∀ position line,
      text.lines[position.line]? = some line →
      ¬line.content.LacksColumn position.character →
      ∃ offset, table.offsetOfEditorPosition text position = .ok offset
  /-- What is measured for an offset or for a line is cut out between two boundaries in order. -/
  cuts :
    (∀ offset,
        text.isBoundary offset = true →
        ∃ front, text.slice? (table.startOfLineContaining offset) offset = some front) ∧
      ∀ index line,
        text.lines[index]? = some line →
        text.slice? (text.lineStart index) (table.lineEnd index) = some line.content

/-- Between the boundaries of a text and the positions of editors its table converts one to one. -/
theorem converts_ofText
    (text : Text)
    (short : text.size < Json.Decoder.wordBound) :
    (ofText text).Converts text where
  told := by
    intro offset
    constructor
    · rintro ⟨position, told⟩
      have boundary := isBoundary_of_editorPositionOf told
      exact ⟨Text.le_size_of_isBoundary boundary, boundary⟩
    · rintro ⟨-, boundary⟩
      exact exists_editorPositionOf boundary
  words := by
    intro offset position told
    obtain ⟨front, reaches, units⟩ := editorPositionOf_eq_ok_iff.mp told
    have words := reaches.fitsWords short
    rwa [units] at words
  precedes := by
    intro first second firstPosition secondPosition firstTold secondTold before
    exact precedes_of_editorPositionOf firstTold secondTold before
  rangeTold := by
    intro span
    constructor
    · rintro ⟨range, told⟩
      obtain ⟨inOrder, startTold, stopTold⟩ := editorRangeOf_eq_ok_iff.mp told
      exact
        ⟨inOrder, isBoundary_of_editorPositionOf startTold,
          isBoundary_of_editorPositionOf stopTold⟩
    · rintro ⟨inOrder, startBoundary, stopBoundary⟩
      obtain ⟨start, startTold⟩ := exists_editorPositionOf startBoundary
      obtain ⟨stop, stopTold⟩ := exists_editorPositionOf stopBoundary
      exact ⟨⟨start, stop⟩, editorRangeOf_eq_ok_iff.mpr ⟨inOrder, startTold, stopTold⟩⟩
  rangeInOrder := by
    intro span range told
    exact not_precedes_of_editorRangeOf told
  foundAgain := by
    intro offset position told outside
    exact offsetOfEditorPosition_of_told told outside
  insidePair := by
    intro offset position told inside
    obtain ⟨line, found, beyond⟩ := exists_units_lt_of_insidePair told inside
    exact ⟨line, found, offsetOfEditorPosition_of_lacksColumn found (.inl beyond)⟩
  toldAgain := by
    intro position offset resolved
    have names := offsetOfEditorPosition_eq_ok_iff.mp resolved
    have boundary := names.isBoundary
    have told := editorPositionOf_of_names names
    obtain ⟨line, front, back, found, content, -, rfl⟩ := names
    refine ⟨line, found, boundary, Nat.le_add_right _ _, ?_, told⟩
    rw [content, Text.size_append]
    omega
  missingLine := by
    intro position missing
    exact offsetOfEditorPosition_of_missing missing
  missingColumn := by
    intro position line found lacking
    exact offsetOfEditorPosition_of_lacksColumn found lacking
  found := by
    intro position line found present
    exact exists_offsetOfEditorPosition found present
  cuts := by
    refine ⟨?_, ?_⟩
    · intro offset boundary
      obtain ⟨index, front, reaches⟩ := Text.exists_reaches boundary
      have cut := reaches.slice?
      obtain ⟨line, back, found, -, within, rfl⟩ := reaches
      rw [startOfLineContaining_ofText found within]
      exact ⟨front, cut⟩
    · intro index line found
      rw [lineEnd_ofText found]
      exact text.lined_lines.slice?_front found rfl

/-- Inside a pair and inside a character of two units there is no way back, behind them there is. -/
theorem converts_ofText_around_pair :
    let text : Text := ['a', '\r', '\n', '😀']
    let table := ofText text
    (text.size < Json.Decoder.wordBound ∧
        text.InsidePair 2 ∧
        table.editorPositionOf text 2 = .ok ⟨0, 2⟩ ∧
        table.offsetOfEditorPosition text ⟨1, 2⟩ = .ok 7) ∧
      (∃ line,
        text.lines[0]? = some line ∧
          table.offsetOfEditorPosition text ⟨0, 2⟩ =
            .error (.columnOutOfRange 0 2 line.content.units)) ∧
      table.offsetOfEditorPosition text ⟨1, 1⟩ = .error (.columnOutOfRange 1 1 2) ∧
      table.editorPositionOf text 7 = .ok ⟨1, 2⟩ := by
  intro text table
  have short : text.size < Json.Decoder.wordBound := by
    decide
  have inside : text.InsidePair 2 := by
    decide
  have told : table.editorPositionOf text 2 = .ok ⟨0, 2⟩ :=
    rfl
  have resolved : table.offsetOfEditorPosition text ⟨1, 2⟩ = .ok 7 :=
    rfl
  have converts := converts_ofText text short
  have lacking : Text.LacksColumn ['😀'] 1 := .inr ⟨[], '😀', [], rfl, by decide, rfl⟩
  obtain ⟨line, found, boundary, fromStart, untilEnd, toldAgain⟩ :=
    converts.toldAgain ⟨1, 2⟩ 7 resolved
  exact
    ⟨⟨short, inside, told, resolved⟩, converts.insidePair 2 ⟨0, 2⟩ told inside,
      converts.missingColumn ⟨1, 1⟩ ⟨['😀'], []⟩ (by decide) lacking, toldAgain⟩

end LineTable

end VersionedText
