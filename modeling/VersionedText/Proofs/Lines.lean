import VersionedText.Proofs.Rescan

namespace VersionedText

/-!
# The lines of a text

A text is a sequence of lines.  Each but the last ends with a break, and no
content of a line has a break in it.  A line table tells where the lines are:
the starts that it lists are those of the lines, and the content of a line is
what lies between its start and its end.
-/

/-- A line of a text: its content, and the break behind it unless it is the last. -/
structure Line where
  content : Text
  lineBreak : Text
  deriving Repr, DecidableEq

namespace Line

/-- Length of a line in bytes, its break included. -/
def size (line : Line) : Nat :=
  line.content.size + line.lineBreak.size

@[simp]
theorem size_mk (content lineBreak : Text) :
    size ⟨content, lineBreak⟩ = content.size + lineBreak.size :=
  rfl

/--
The last byte column of a line.  Its break counts, but not the place behind the
break, where the next line starts.
-/
def lastColumn (line : Line) : Nat :=
  line.content.size + (line.lineBreak.size - 1)

@[simp]
theorem lastColumn_mk (content lineBreak : Text) :
    lastColumn ⟨content, lineBreak⟩ = content.size + (lineBreak.size - 1) :=
  rfl

theorem lastColumn_le_size (line : Line) : line.lastColumn ≤ line.size :=
  Nat.add_le_add_left (Nat.sub_le _ _) _

/-- Put a character in front of the first of the lines. -/
def extendFirst (character : Char) : List Line → List Line
  | [] => [⟨[character], []⟩]
  | first :: later => ⟨character :: first.content, first.lineBreak⟩ :: later

/-- Where the line of an index starts, if the lines follow one another from zero on. -/
def startOf : List Line → Nat → Nat
  | _, 0 => 0
  | [], _ + 1 => 0
  | line :: later, index + 1 => line.size + startOf later index

@[simp]
theorem startOf_zero (lines : List Line) : startOf lines 0 = 0 := by
  rw [startOf]

@[simp]
theorem startOf_cons_succ
    (line : Line)
    (later : List Line)
    (index : Nat) :
    startOf (line :: later) (index + 1) = line.size + startOf later index := by
  rw [startOf]

end Line

namespace Text

/-- The lines of a text; there is always a last one, which may be empty. -/
def lines : Text → List Line
  | [] => [⟨[], []⟩]
  | '\r' :: '\n' :: rest => ⟨[], ['\r', '\n']⟩ :: lines rest
  | character :: rest =>
      if isBreakCharacter character then
        ⟨[], [character]⟩ :: lines rest
      else
        Line.extendFirst character (lines rest)

/-- Where the line of an index starts. -/
def lineStart (text : Text) (line : Nat) : Nat :=
  Line.startOf text.lines line

/-- A text without any break. -/
def Unbroken (text : Text) : Prop :=
  ∀ character ∈ text, isBreakCharacter character = false

/--
The texts before and behind a line: no pair is cut in front of the line, and
behind it either its break is whole or the text ends.
-/
structure Surrounds (earlier : Text) (line : Line) (later : Text) : Prop where
  unbroken : Unbroken line.content
  opened : ¬SplitsPair earlier (line.content ++ (line.lineBreak ++ later))
  ended :
    IsBreak line.lineBreak ∧ ¬SplitsPair line.lineBreak later ∨
      line.lineBreak = [] ∧ later = []

/-- A text consists of the lines, one behind the other. -/
inductive Lined : Text → List Line → Prop where
  | last
      {content : Text} :
      Unbroken content →
      Lined content [⟨content, []⟩]
  | next
      {content lineBreak rest : Text}
      {later : List Line} :
      Unbroken content →
      IsBreak lineBreak →
      ¬SplitsPair lineBreak rest →
      Lined rest later →
      Lined (content ++ (lineBreak ++ rest)) (⟨content, lineBreak⟩ :: later)

theorem unbroken_nil : Unbroken [] := by
  rintro character ⟨⟩

theorem unbroken_cons_iff
    (character : Char)
    (rest : Text) :
    Unbroken (character :: rest) ↔ isBreakCharacter character = false ∧ Unbroken rest :=
  List.forall_mem_cons

/-- A single character is followed by a line of its own or put in front of the first line. -/
theorem lines_cons
    {character : Char}
    {rest : Text}
    (whole : ¬SplitsPair [character] rest) :
    lines (character :: rest) =
      if isBreakCharacter character then
        ⟨[], [character]⟩ :: lines rest
      else
        Line.extendFirst character (lines rest) := by
  rw [lines]
  rintro later rfl rfl
  exact whole ⟨rfl, rfl⟩

theorem Lined.extendFirst
    {text : Text}
    {lines : List Line}
    {character : Char}
    (lined : Lined text lines)
    (continues : isBreakCharacter character = false) :
    Lined (character :: text) (Line.extendFirst character lines) := by
  cases lined with
  | last unbroken =>
      exact .last ((unbroken_cons_iff _ _).mpr ⟨continues, unbroken⟩)
  | next unbroken isBreak whole later =>
      exact .next ((unbroken_cons_iff _ _).mpr ⟨continues, unbroken⟩) isBreak whole later

/-- Every text consists of its lines. -/
theorem lined_lines (text : Text) : Lined text text.lines := by
  induction (0 : Nat), text using scan_induction with
  | nil offset =>
      exact .last unbroken_nil
  | pair offset rest inductionHypothesis =>
      exact .next unbroken_nil .pair (not_splitsPair_after_pair rest) inductionHypothesis
  | single offset character rest unpaired inductionHypothesis =>
      rw [lines_cons unpaired]
      cases ends : isBreakCharacter character with
      | true => exact .next unbroken_nil (.single ends) unpaired inductionHypothesis
      | false => exact inductionHypothesis.extendFirst ends

example :
    lines ['a', '\r', '\r', '\n', 'é'] = [⟨['a'], ['\r']⟩, ⟨[], ['\r', '\n']⟩, ⟨['é'], []⟩] := by
  decide

/-- A text without breaks in front moves the breaks behind it. -/
theorem Unbroken.lineBreaksFrom_append
    {content : Text}
    (unbroken : Unbroken content)
    (offset : Nat)
    (later : Text) :
    lineBreaksFrom offset (content ++ later) = lineBreaksFrom (offset + content.size) later := by
  induction content generalizing offset with
  | nil =>
      rfl
  | cons character rest inductionHypothesis =>
      obtain ⟨continues, restUnbroken⟩ := (unbroken_cons_iff _ _).mp unbroken
      have unpaired : ¬SplitsPair [character] (rest ++ later) := by
        rintro ⟨last, -⟩
        obtain rfl := Option.some.inj last
        cases continues
      rw [List.cons_append, lineBreaksFrom_cons unpaired, continues,
        inductionHypothesis restUnbroken, size_cons, Nat.add_assoc]
      rfl

theorem Unbroken.lineBreaksFrom
    {content : Text}
    (unbroken : Unbroken content)
    (offset : Nat) :
    content.lineBreaksFrom offset = [] := by
  have alone := unbroken.lineBreaksFrom_append offset []
  rwa [List.append_nil, lineBreaksFrom_nil] at alone

/-- A cut that separates a pair does so however much text surrounds the pair. -/
theorem SplitsPair.append
    {first second : Text}
    (splits : SplitsPair first second)
    (earlier later : Text) :
    SplitsPair (earlier ++ first) (second ++ later) := by
  obtain ⟨last, head⟩ := splits
  exact ⟨by rw [List.getLast?_append, last, Option.some_or],
    by rw [List.head?_append, head, Option.some_or]⟩

/-- Only what is next to a cut tells whether the cut separates a pair. -/
theorem SplitsPair.of_append
    {earlier first second : Text}
    (splits : SplitsPair (earlier ++ first) second)
    (occupied : first ≠ []) :
    SplitsPair first second := by
  obtain ⟨last, head⟩ := splits
  rw [List.getLast?_append, List.getLast?_eq_some_getLast occupied, Option.some_or] at last
  exact ⟨by rwa [List.getLast?_eq_some_getLast occupied], head⟩

namespace IsBreak

theorem ne_nil
    {lineBreak : Text}
    (isBreak : lineBreak.IsBreak) :
    lineBreak ≠ [] := by
  cases isBreak <;> exact List.cons_ne_nil _ _

/-- A break of two parts is a pair. -/
theorem splitsPair
    {lineBreak first second : Text}
    (isBreak : lineBreak.IsBreak)
    (shape : lineBreak = first ++ second)
    (firstOccupied : first ≠ [])
    (secondOccupied : second ≠ []) :
    SplitsPair first second := by
  obtain ⟨front, firstRest, rfl⟩ := List.exists_cons_of_ne_nil firstOccupied
  obtain ⟨back, secondRest, rfl⟩ := List.exists_cons_of_ne_nil secondOccupied
  cases isBreak with
  | pair =>
      cases firstRest with
      | nil =>
          cases shape
          exact ⟨rfl, rfl⟩
      | cons next others =>
          have lengths := congrArg List.length shape
          simp at lengths
  | single ends =>
      have lengths := congrArg List.length shape
      simp at lengths

theorem size_pos
    {lineBreak : Text}
    (isBreak : lineBreak.IsBreak) :
    0 < lineBreak.size := by
  cases isBreak with
  | pair => decide
  | @single character ends => exact Nat.lt_add_right _ character.utf8Size_pos

/-- On a line with a break the columns are the bytes of the line. -/
theorem lt_size_iff
    {content lineBreak : Text}
    (isBreak : lineBreak.IsBreak)
    {column : Nat} :
    column < Line.size ⟨content, lineBreak⟩ ↔ column ≤ Line.lastColumn ⟨content, lineBreak⟩ := by
  have occupies := isBreak.size_pos
  rw [Line.size_mk, Line.lastColumn_mk]
  omega

end IsBreak

/-- The break of the first line is the first that is found. -/
theorem lineBreaksFrom_next
    {content lineBreak rest : Text}
    (unbroken : Unbroken content)
    (isBreak : IsBreak lineBreak)
    (whole : ¬SplitsPair lineBreak rest)
    (offset : Nat) :
    lineBreaksFrom offset (content ++ (lineBreak ++ rest)) =
      ⟨offset + content.size, offset + Line.size ⟨content, lineBreak⟩⟩ ::
        lineBreaksFrom (offset + Line.size ⟨content, lineBreak⟩) rest := by
  rw [unbroken.lineBreaksFrom_append, lineBreaksFrom_append whole, isBreak.lineBreaksFrom,
    Line.size_mk, Nat.add_assoc]
  rfl

namespace Lined

variable {text : Text} {lines : List Line}

theorem length_breaks
    (lined : Lined text lines)
    (offset : Nat) :
    (lineBreaksFrom offset text).length + 1 = lines.length := by
  induction lined generalizing offset with
  | last unbroken =>
      rw [unbroken.lineBreaksFrom]
      rfl
  | next unbroken isBreak whole _ inductionHypothesis =>
      rw [lineBreaksFrom_next unbroken isBreak whole, List.length_cons, inductionHypothesis,
        List.length_cons]

/-- Every break opens the line behind it. -/
theorem getElem?_starts
    (lined : Lined text lines)
    (offset : Nat)
    {index : Nat}
    (inRange : index < lines.length) :
    (offset :: (lineBreaksFrom offset text).map Span.stop)[index]? =
      some (offset + Line.startOf lines index) := by
  induction lined generalizing offset index with
  | last unbroken =>
      obtain rfl := Nat.lt_one_iff.mp inRange
      rfl
  | next unbroken isBreak whole _ inductionHypothesis =>
      cases index with
      | zero =>
          rfl
      | succ index =>
          rw [lineBreaksFrom_next unbroken isBreak whole, List.map_cons,
            List.getElem?_cons_succ, inductionHypothesis _ (Nat.lt_of_succ_lt_succ inRange),
            Line.startOf_cons_succ, Nat.add_assoc]

/-- A line stands in its text at the sum of the lines before it. -/
theorem exists_parts
    (lined : Lined text lines)
    {index : Nat}
    {line : Line}
    (found : lines[index]? = some line) :
    ∃ earlier later,
      text = earlier ++ line.content ++ (line.lineBreak ++ later) ∧
        earlier.size = Line.startOf lines index ∧
        Surrounds earlier line later := by
  induction lined generalizing index with
  | @last content unbroken =>
      cases index with
      | zero =>
          obtain rfl := Option.some.inj found
          refine ⟨[], [], by simp, rfl, unbroken, ?_, .inr ⟨rfl, rfl⟩⟩
          rintro ⟨last, -⟩
          cases last
      | succ index =>
          cases found
  | @next content lineBreak rest later unbroken isBreak whole _ inductionHypothesis =>
      cases index with
      | zero =>
          obtain rfl := Option.some.inj found
          refine ⟨[], rest, rfl, rfl, unbroken, ?_, .inl ⟨isBreak, whole⟩⟩
          rintro ⟨last, -⟩
          cases last
      | succ index =>
          obtain ⟨earlier, behind, shape, size, surrounds⟩ := inductionHypothesis found
          refine ⟨content ++ (lineBreak ++ earlier), behind, ?_, ?_, surrounds.unbroken, ?_,
            surrounds.ended⟩
          · simp only [shape, List.append_assoc]
          · rw [size_append, size_append, size, Line.startOf_cons_succ, Line.size_mk, Nat.add_assoc]
          · intro splits
            rw [← List.append_assoc] at splits
            by_cases next : earlier = []
            · subst next
              rw [List.append_nil] at splits
              rw [List.nil_append] at shape
              rw [← shape] at splits
              exact whole (splits.of_append isBreak.ne_nil)
            · exact surrounds.opened (splits.of_append next)

/-- The front of a line can be cut out of the text, at the start of the line. -/
theorem slice?_front
    (lined : Lined text lines)
    {index : Nat}
    {line : Line}
    {front back : Text}
    (found : lines[index]? = some line)
    (shape : line.content ++ line.lineBreak = front ++ back) :
    text.slice? (Line.startOf lines index) (Line.startOf lines index + front.size) =
      some front := by
  obtain ⟨earlier, later, rfl, size, -⟩ := lined.exists_parts found
  refine slice?_eq_some_iff.mpr ⟨earlier, back ++ later, ?_, size, by rw [size]⟩
  rw [List.append_assoc earlier, ← List.append_assoc line.content, shape]
  simp only [List.append_assoc]

/-- A line has a break behind it, between its content and the next line, or else ends the text. -/
theorem getElem?_breaks
    (lined : Lined text lines)
    (offset : Nat)
    {index : Nat}
    {line : Line}
    (found : lines[index]? = some line) :
    (lineBreaksFrom offset text)[index]? =
        some ⟨offset + Line.startOf lines index + line.content.size,
          offset + Line.startOf lines index + line.size⟩ ∧
        IsBreak line.lineBreak ∨
      (lineBreaksFrom offset text)[index]? = none ∧
        line.lineBreak = [] ∧
        offset + Line.startOf lines index + line.content.size = offset + text.size := by
  induction lined generalizing offset index with
  | last unbroken =>
      cases index with
      | zero =>
          obtain rfl := Option.some.inj found
          rw [unbroken.lineBreaksFrom]
          exact .inr ⟨rfl, rfl, rfl⟩
      | succ index =>
          cases found
  | @next content lineBreak rest later unbroken isBreak whole _ inductionHypothesis =>
      rw [lineBreaksFrom_next unbroken isBreak whole]
      cases index with
      | zero =>
          obtain rfl := Option.some.inj found
          exact .inl ⟨rfl, isBreak⟩
      | succ index =>
          have sizes :
              offset + size (content ++ (lineBreak ++ rest)) =
                offset + Line.size ⟨content, lineBreak⟩ + rest.size := by
            rw [size_append, size_append, Line.size_mk]
            omega
          rw [List.getElem?_cons_succ, sizes, Line.startOf_cons_succ, ← Nat.add_assoc offset]
          exact inductionHypothesis _ found

/-- The breaks that end at or before a column of a line are those of the lines before it. -/
theorem length_takeWhile_breaks
    (lined : Lined text lines)
    (offset : Nat)
    {index column : Nat}
    {line : Line}
    (found : lines[index]? = some line)
    (within : column ≤ line.lastColumn) :
    ((lineBreaksFrom offset text).takeWhile fun lineBreak =>
        lineBreak.stop ≤ offset + Line.startOf lines index + column).length = index := by
  induction lined generalizing offset index with
  | last unbroken =>
      cases index with
      | zero =>
          rw [unbroken.lineBreaksFrom]
          rfl
      | succ index =>
          cases found
  | @next content lineBreak rest later unbroken isBreak whole _ inductionHypothesis =>
      rw [lineBreaksFrom_next unbroken isBreak whole]
      cases index with
      | zero =>
          obtain rfl := Option.some.inj found
          have inLine := isBreak.lt_size_iff.mpr within
          have behind : ¬offset + Line.size ⟨content, lineBreak⟩ ≤ offset + 0 + column := by
            omega
          rw [Line.startOf_zero, List.takeWhile_cons_of_neg (by simpa using behind)]
          rfl
      | succ index =>
          have before :
              offset + Line.size ⟨content, lineBreak⟩ ≤
                offset + Line.startOf (⟨content, lineBreak⟩ :: later) (index + 1) + column := by
            rw [Line.startOf_cons_succ]
            omega
          rw [List.takeWhile_cons_of_pos (by simpa using before), List.length_cons,
            Line.startOf_cons_succ, ← Nat.add_assoc offset, inductionHypothesis _ found]

/-- Every offset of a text is a column of one of its lines. -/
theorem exists_line_of_le_size
    (lined : Lined text lines)
    {offset : Nat}
    (inText : offset ≤ text.size) :
    ∃ index line column,
      lines[index]? = some line ∧
        column ≤ line.lastColumn ∧
        Line.startOf lines index + column = offset := by
  induction lined generalizing offset with
  | last unbroken =>
      exact ⟨0, _, offset, rfl, inText, Nat.zero_add offset⟩
  | @next content lineBreak rest later unbroken isBreak _ _ inductionHypothesis =>
      by_cases inLine : offset < Line.size ⟨content, lineBreak⟩
      · exact ⟨0, _, offset, rfl, isBreak.lt_size_iff.mp inLine, Nat.zero_add offset⟩
      · rw [size_append, size_append] at inText
        rw [Line.size_mk] at inLine
        have inRest : offset - (content.size + lineBreak.size) ≤ rest.size := by omega
        obtain ⟨index, line, column, found, within, sum⟩ := inductionHypothesis inRest
        refine ⟨index + 1, line, column, found, within, ?_⟩
        rw [Line.startOf_cons_succ, Line.size_mk]
        omega

/-- The last column of a line is a place in the text. -/
theorem startOf_add_lastColumn_le_size
    (lined : Lined text lines)
    {index : Nat}
    {line : Line}
    (found : lines[index]? = some line) :
    Line.startOf lines index + line.lastColumn ≤ text.size := by
  obtain ⟨earlier, later, rfl, size, -⟩ := lined.exists_parts found
  have columns := line.lastColumn_le_size
  rw [Line.size] at columns
  simp only [size_append]
  omega

/-- A cut that separates no pair is a cut in the content of a line, or at one of its ends. -/
theorem exists_line_of_cut
    (lined : Lined text lines)
    {head tail : Text}
    (shape : text = head ++ tail)
    (whole : ¬SplitsPair head tail) :
    ∃ index line front back,
      lines[index]? = some line ∧
        line.content = front ++ back ∧
        head.size = Line.startOf lines index + front.size := by
  induction lined generalizing head tail with
  | last unbroken =>
      exact ⟨0, _, head, tail, rfl, shape, (Nat.zero_add _).symm⟩
  | @next content lineBreak rest later unbroken isBreak _ _ inductionHypothesis =>
      have onward
          {front : Text}
          (headShape : head = content ++ (lineBreak ++ front))
          (restShape : rest = front ++ tail) :
          ∃ index line front back,
            (⟨content, lineBreak⟩ :: later)[index]? = some line ∧
              line.content = front ++ back ∧
              head.size = Line.startOf (⟨content, lineBreak⟩ :: later) index + front.size := by
        subst headShape
        have restWhole : ¬SplitsPair front tail := by
          intro splits
          have wider := splits.append (content ++ lineBreak) []
          rw [List.append_nil, List.append_assoc] at wider
          exact whole wider
        obtain ⟨index, line, front, back, found, lineShape, size⟩ :=
          inductionHypothesis restShape restWhole
        refine ⟨index + 1, line, front, back, found, lineShape, ?_⟩
        rw [size_append, size_append, size, Line.startOf_cons_succ, Line.size_mk]
        omega
      rcases List.append_eq_append_iff.mp shape with
          ⟨middle, rfl, behind⟩ | ⟨back, contentShape, -⟩
      · rcases List.append_eq_append_iff.mp behind with
            ⟨front, rfl, restShape⟩ | ⟨inside, breakShape, tailShape⟩
        · exact onward rfl restShape
        · by_cases atEnd : middle = []
          · subst atEnd
            exact ⟨0, _, content, [], rfl, by simp, by simp⟩
          by_cases atBreakEnd : inside = []
          · subst atBreakEnd
            have noneBehind : content ++ middle = content ++ (lineBreak ++ []) := by
              rw [breakShape, List.append_nil, List.append_nil]
            exact onward noneBehind tailShape.symm
          · have splits := (isBreak.splitsPair breakShape atEnd atBreakEnd).append content rest
            rw [← tailShape] at splits
            exact absurd splits whole
      · exact ⟨0, _, head, back, rfl, contentShape, (Nat.zero_add _).symm⟩

/-- The columns of a line end before any later line starts. -/
theorem startOf_add_lastColumn_lt_startOf
    (lined : Lined text lines)
    {index next : Nat}
    {line : Line}
    (found : lines[index]? = some line)
    (later : index < next)
    (inRange : next < lines.length) :
    Line.startOf lines index + line.lastColumn < Line.startOf lines next := by
  induction lined generalizing index next with
  | last unbroken =>
      rw [List.length_singleton] at inRange
      omega
  | next unbroken isBreak whole _ inductionHypothesis =>
      obtain ⟨next, rfl⟩ := Nat.exists_eq_succ_of_ne_zero (Nat.ne_zero_of_lt later)
      rw [Line.startOf_cons_succ, Line.size_mk]
      cases index with
      | zero =>
          obtain rfl := Option.some.inj found
          have occupies := isBreak.size_pos
          rw [Line.startOf_zero, Line.lastColumn_mk]
          omega
      | succ index =>
          have rest :=
            inductionHypothesis found (Nat.lt_of_succ_lt_succ later)
              (Nat.lt_of_succ_lt_succ inRange)
          rw [Line.startOf_cons_succ, Line.size_mk]
          omega

/-- Every line before another one takes at least a byte. -/
theorem le_startOf
    (lined : Lined text lines)
    {index : Nat}
    (inRange : index < lines.length) :
    index ≤ Line.startOf lines index := by
  induction index with
  | zero =>
      exact Nat.zero_le _
  | succ index inductionHypothesis =>
      have before := Nat.lt_of_succ_lt inRange
      have rest := inductionHypothesis before
      have apart :=
        lined.startOf_add_lastColumn_lt_startOf (List.getElem?_eq_getElem before)
          (Nat.lt_add_one index) inRange
      omega

end Lined

end Text

namespace LineTable

theorem lineCount_ofText (text : Text) : (ofText text).lineCount = text.lines.length :=
  text.lined_lines.length_breaks 0

/-- A table knows the start of every line that its text has, and of no other. -/
theorem lineStart_ofText
    (text : Text)
    (line : Nat) :
    (ofText text).lineStart line =
      if line < text.lines.length then
        .ok (text.lineStart line)
      else
        .error (.lineOutOfRange line text.lines.length) := by
  rw [lineStart, lineCount_ofText]
  by_cases inRange : line < text.lines.length
  · have start : (ofText text).starts[line]? = some (text.lineStart line) := by
      have known := text.lined_lines.getElem?_starts 0 inRange
      rwa [Nat.zero_add] at known
    rw [start, if_pos inRange]
  · have missing : (ofText text).starts[line]? = none := by
      rw [List.getElem?_eq_none_iff, starts, List.length_cons, List.length_map, ofText]
      have count := lineCount_ofText text
      rw [lineCount, ofText] at count
      omega
    rw [missing, if_neg inRange]

/-- The content of a line ends at the break behind it, or with the text. -/
theorem lineEnd_ofText
    {text : Text}
    {index : Nat}
    {line : Line}
    (found : text.lines[index]? = some line) :
    (ofText text).lineEnd index = text.lineStart index + line.content.size := by
  have known := text.lined_lines.getElem?_breaks 0 found
  rw [Nat.zero_add, Nat.zero_add] at known
  rw [lineEnd, ofText, Text.lineBreaks, Text.lineStart]
  rcases known with ⟨lineBreak, -⟩ | ⟨none, -, atEnd⟩
  · rw [lineBreak]
  · rw [none, atEnd]

/-- What a table takes for the content of a line is the content of this line. -/
theorem between_line
    {text : Text}
    {index : Nat}
    {line : Line}
    (found : text.lines[index]? = some line) :
    text.between (text.lineStart index) ((ofText text).lineEnd index) = line.content := by
  rw [lineEnd_ofText found]
  exact Text.between_of_slice? (text.lined_lines.slice?_front found rfl)

theorem lineContaining_ofText
    {text : Text}
    {index column : Nat}
    {line : Line}
    (found : text.lines[index]? = some line)
    (within : column ≤ line.lastColumn) :
    (ofText text).lineContaining (text.lineStart index + column) = index := by
  have known := text.lined_lines.length_takeWhile_breaks 0 found within
  rwa [Nat.zero_add] at known

theorem startOfLineContaining_ofText
    {text : Text}
    {index column : Nat}
    {line : Line}
    (found : text.lines[index]? = some line)
    (within : column ≤ line.lastColumn) :
    (ofText text).startOfLineContaining (text.lineStart index + column) =
      text.lineStart index := by
  have inRange : index < text.lines.length := (List.getElem?_eq_some_iff.mp found).1
  have known := text.lined_lines.getElem?_starts 0 inRange
  rw [Nat.zero_add] at known
  rw [startOfLineContaining, lineContaining_ofText found within]
  exact congrArg (fun start => start.getD 0) known

end LineTable

end VersionedText
