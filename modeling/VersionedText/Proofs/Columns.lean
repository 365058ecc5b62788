import VersionedText.LineTable.Place
import VersionedText.Proofs.Lines
import VersionedText.Proofs.Places
import VersionedText.Proofs.Upkeep

namespace VersionedText

/-!
# Byte columns

A line and a byte column locate an offset when the line has the column.  Every
offset of a text is located by one place, and the places come in the order of
their offsets.  A table finds the place of every offset and the offset of every
place; a document, whatever calls have led to it, does so for the boundaries of
its text.
-/

namespace LineColumn

/-- By line, and within a line by column. -/
def Precedes (first second : LineColumn) : Prop :=
  first.line < second.line ∨ first.line = second.line ∧ first.column < second.column

instance (first second : LineColumn) : Decidable (first.Precedes second) :=
  inferInstanceAs (Decidable (_ ∨ _))

end LineColumn

namespace Text

/-- The offset is a column of a line, the places in the line's break included. -/
def Locates (text : Text) (place : LineColumn) (offset : Nat) : Prop :=
  ∃ line,
    text.lines[place.line]? = some line ∧
      place.column ≤ line.lastColumn ∧
      text.lineStart place.line + place.column = offset

/-- A place locates no offset, for the given cause. -/
inductive Mislocates (text : Text) (place : LineColumn) : Refusal → Prop where
  | missingLine :
      text.lines.length ≤ place.line →
      Mislocates text place (.lineOutOfRange place.line text.lines.length)
  | missingColumn
      {line : Line} :
      text.lines[place.line]? = some line →
      line.lastColumn < place.column →
      Mislocates text place (.columnOutOfRange place.line place.column line.content.size)

theorem exists_locates
    {text : Text}
    {offset : Nat}
    (inText : offset ≤ text.size) :
    ∃ place, text.Locates place offset := by
  obtain ⟨index, line, column, found, within, sum⟩ :=
    text.lined_lines.exists_line_of_le_size inText
  exact ⟨⟨index, column⟩, line, found, within, sum⟩

namespace Locates

variable {text : Text} {place : LineColumn} {offset : Nat}

theorem le_size
    (locates : text.Locates place offset) :
    offset ≤ text.size := by
  obtain ⟨line, found, within, rfl⟩ := locates
  have inText := text.lined_lines.startOf_add_lastColumn_le_size found
  rw [lineStart]
  omega

/-- Places come in the order of the offsets that they locate. -/
theorem precedes
    {first second : LineColumn}
    {firstOffset secondOffset : Nat}
    (firstLocates : text.Locates first firstOffset)
    (secondLocates : text.Locates second secondOffset)
    (before : firstOffset < secondOffset) :
    first.Precedes second := by
  obtain ⟨firstLine, firstFound, firstWithin, rfl⟩ := firstLocates
  obtain ⟨secondLine, secondFound, secondWithin, rfl⟩ := secondLocates
  rcases Nat.lt_trichotomy first.line second.line with earlier | same | later
  · exact .inl earlier
  · rw [same] at before
    exact .inr ⟨same, Nat.lt_of_add_lt_add_left before⟩
  · have inRange := (List.getElem?_eq_some_iff.mp firstFound).1
    have apart :=
      text.lined_lines.startOf_add_lastColumn_lt_startOf secondFound later inRange
    rw [lineStart, lineStart] at before
    omega

end Locates

/-- Breaks follow one another. -/
theorem pairwise_lineBreaksFrom
    (offset : Nat)
    (text : Text) :
    (lineBreaksFrom offset text).Pairwise fun first second => first.stop ≤ second.start := by
  induction offset, text using scan_induction with
  | nil offset =>
      rw [lineBreaksFrom_nil]
      exact .nil
  | pair offset rest inductionHypothesis =>
      rw [lineBreaksFrom_pair]
      refine .cons ?_ inductionHypothesis
      intro lineBreak found
      exact (bounds_of_mem_lineBreaksFrom found).1
  | single offset character rest unpaired inductionHypothesis =>
      rw [lineBreaksFrom_cons unpaired]
      split
      · refine .cons ?_ inductionHypothesis
        intro lineBreak found
        exact (bounds_of_mem_lineBreaksFrom found).1
      · exact inductionHypothesis

end Text

/-- Where the items that pass come first, they are as many as are taken from the front. -/
theorem countP_eq_length_takeWhile
    {passes : α → Bool}
    {items : List α}
    (closed : items.Pairwise fun first second => passes second = true → passes first = true) :
    items.countP passes = (items.takeWhile passes).length := by
  induction items with
  | nil =>
      rfl
  | cons first rest inductionHypothesis =>
      obtain ⟨firstClosed, restClosed⟩ := List.pairwise_cons.mp closed
      by_cases passed : passes first = true
      · rw [List.countP_cons_of_pos passed, List.takeWhile_cons_of_pos passed, List.length_cons,
          inductionHypothesis restClosed]
      · have none : rest.countP passes = 0 :=
          List.countP_eq_zero.mpr fun item member itemPasses =>
            passed (firstClosed item member itemPasses)
        rw [List.countP_cons_of_neg passed, List.takeWhile_cons_of_neg passed, none]
        rfl

namespace LineTable

/-- The line of an offset is told by the number of breaks that stop at the offset or before it. -/
theorem lineContaining_ofText_eq_countP
    (text : Text)
    (offset : Nat) :
    (ofText text).lineContaining offset =
      text.lineBreaks.countP fun lineBreak => lineBreak.stop ≤ offset := by
  refine (countP_eq_length_takeWhile ?_).symm
  refine (text.pairwise_lineBreaksFrom 0).imp_of_mem ?_
  intro first second _ secondFound inOrder passed
  have bounds := Text.bounds_of_mem_lineBreaksFrom secondFound
  rw [decide_eq_true_eq] at passed ⊢
  omega

section Places

variable {text : Text} {place : LineColumn} {offset : Nat}

/-- A table finds the place that locates an offset, and none for an offset beyond the text. -/
theorem lineColumnOf_eq_ok_iff :
    (ofText text).lineColumnOf offset = .ok place ↔ text.Locates place offset := by
  have found
      {located : LineColumn}
      (locates : text.Locates located offset) :
      (ofText text).lineColumnOf offset = .ok located := by
    have inText : ¬(ofText text).length < offset := Nat.not_lt.mpr locates.le_size
    obtain ⟨line, found, within, rfl⟩ := locates
    rw [lineColumnOf, if_neg inText, lineContaining_ofText found within,
      startOfLineContaining_ofText found within, Nat.add_sub_cancel_left]
  constructor
  · intro accepted
    by_cases beyond : (ofText text).length < offset
    · rw [lineColumnOf, if_pos beyond] at accepted
      cases accepted
    · obtain ⟨located, locates⟩ := Text.exists_locates (Nat.not_lt.mp beyond)
      rw [found locates] at accepted
      obtain rfl := Except.ok.inj accepted
      exact locates
  · exact found

theorem offsetOf_of_line
    {line : Line}
    (found : text.lines[place.line]? = some line) :
    (ofText text).offsetOf place =
      if line.lastColumn < place.column then
        .error (.columnOutOfRange place.line place.column line.content.size)
      else
        .ok (text.lineStart place.line + place.column) := by
  have inRange := (List.getElem?_eq_some_iff.mp found).1
  have known := text.lined_lines.getElem?_breaks 0 found
  rw [Nat.zero_add, Nat.zero_add, ← Text.lineStart] at known
  rw [offsetOf, lineStart_ofText, if_pos inRange]
  simp only [bind, Except.bind, lineEnd_ofText found, Nat.add_sub_cancel_left]
  rcases known with ⟨known, isBreak⟩ | ⟨none, noBreak, atEnd⟩
  · have limit :
        text.lineStart place.line + line.size - 1 = text.lineStart place.line + line.lastColumn := by
      have occupies := isBreak.size_pos
      rw [Line.size, Line.lastColumn]
      omega
    simp only [ofText, Text.lineBreaks, known, limit, Nat.add_lt_add_iff_left]
  · have limit : text.size = text.lineStart place.line + line.lastColumn := by
      rw [Line.lastColumn, noBreak, ← atEnd]
      rfl
    simp only [ofText, Text.lineBreaks, none, limit, Nat.add_lt_add_iff_left]

theorem offsetOf_of_missing
    (missing : text.lines.length ≤ place.line) :
    (ofText text).offsetOf place = .error (.lineOutOfRange place.line text.lines.length) := by
  rw [offsetOf, lineStart_ofText, if_neg (Nat.not_lt.mpr missing)]
  rfl

/-- A table finds the offset that a place locates. -/
theorem offsetOf_eq_ok_iff :
    (ofText text).offsetOf place = .ok offset ↔ text.Locates place offset := by
  constructor
  · intro resolved
    cases found : text.lines[place.line]? with
    | none =>
        rw [offsetOf_of_missing (List.getElem?_eq_none_iff.mp found)] at resolved
        cases resolved
    | some line =>
        rw [offsetOf_of_line found] at resolved
        split at resolved
        · cases resolved
        · rename_i within
          exact ⟨line, found, Nat.not_lt.mp within, Except.ok.inj resolved⟩
  · rintro ⟨line, found, within, rfl⟩
    rw [offsetOf_of_line found, if_neg (Nat.not_lt.mpr within)]

/-- A table refuses a place that locates no offset, and gives the cause. -/
theorem offsetOf_eq_error_iff
    {refusal : Refusal} :
    (ofText text).offsetOf place = .error refusal ↔ text.Mislocates place refusal := by
  constructor
  · intro refused
    cases found : text.lines[place.line]? with
    | none =>
        have missing := List.getElem?_eq_none_iff.mp found
        rw [offsetOf_of_missing missing] at refused
        obtain rfl := Except.error.inj refused
        exact .missingLine missing
    | some line =>
        rw [offsetOf_of_line found] at refused
        split at refused
        · rename_i beyond
          obtain rfl := Except.error.inj refused
          exact .missingColumn found beyond
        · cases refused
  · rintro (missing | ⟨found, beyond⟩)
    · exact offsetOf_of_missing missing
    · rw [offsetOf_of_line found, if_pos beyond]

end Places

/--
What a search for an offset among ascending numbers may answer: where the offset
stands, or else where it would have to be put in.
-/
inductive SearchAnswers (numbers : List Nat) (offset : Nat) : Except Nat Nat → Prop where
  | found
      {index : Nat} :
      numbers[index]? = some offset →
      SearchAnswers numbers offset (.ok index)
  | missing
      {index : Nat} :
      index ≤ numbers.length →
      (∀ before number, before < index → numbers[before]? = some number → number < offset) →
      (∀ behind number, index ≤ behind → numbers[behind]? = some number → offset < number) →
      SearchAnswers numbers offset (.error index)

/-- The line that a search among the starts of lines comes to. -/
def lineOfAnswer : Except Nat Nat → Nat
  | .ok line => line
  | .error next => next - 1

/-- However the starts are searched for an offset of the text, the line of the offset is found. -/
theorem lineOfAnswer_eq_lineContaining
    {text : Text}
    {offset : Nat}
    {answer : Except Nat Nat}
    (inText : offset ≤ text.size)
    (answers : SearchAnswers (ofText text).starts offset answer) :
    lineOfAnswer answer = (ofText text).lineContaining offset := by
  have count : (ofText text).starts.length = text.lines.length := by
    rw [← lineCount_ofText, starts, List.length_cons, List.length_map, lineCount]
  have starts
      {index : Nat}
      (inRange : index < text.lines.length) :
      (ofText text).starts[index]? = some (text.lineStart index) := by
    have known := text.lined_lines.getElem?_starts 0 inRange
    rwa [Nat.zero_add] at known
  cases answers with
  | @found index stands =>
      have inRange := (List.getElem?_eq_some_iff.mp stands).1
      rw [count] at inRange
      obtain rfl := Option.some.inj (stands.symm.trans (starts inRange))
      exact (lineContaining_ofText (List.getElem?_eq_getElem inRange) (Nat.zero_le _)).symm
  | @missing index inRange before behind =>
      rw [count] at inRange
      obtain ⟨place, content, found, within, rfl⟩ := Text.exists_locates inText
      have lineInRange := (List.getElem?_eq_some_iff.mp found).1
      rw [lineContaining_ofText found within, lineOfAnswer]
      have startsBefore : place.line < index := by
        refine Nat.lt_of_not_le fun later => ?_
        have beyond := behind place.line _ later (starts lineInRange)
        omega
      have nextBehind : index ≤ place.line + 1 := by
        refine Nat.le_of_not_lt fun earlier => ?_
        have nextInRange := Nat.lt_of_lt_of_le earlier inRange
        have short := before (place.line + 1) _ earlier (starts nextInRange)
        have apart :=
          text.lined_lines.startOf_add_lastColumn_lt_startOf found (Nat.lt_add_one _) nextInRange
        rw [Text.lineStart, Text.lineStart] at short
        omega
      omega

end LineTable

theorem Text.Locates.line_eq_countP
    {text : Text}
    {place : LineColumn}
    {offset : Nat}
    (locates : text.Locates place offset) :
    place.line = text.lineBreaks.countP fun lineBreak => lineBreak.stop ≤ offset := by
  rw [← LineTable.lineContaining_ofText_eq_countP]
  obtain ⟨line, found, within, rfl⟩ := locates
  exact (LineTable.lineContaining_ofText found within).symm

/-- Every place locates an offset or has a cause for locating none. -/
theorem Text.locates_or_mislocates
    (text : Text)
    (place : LineColumn) :
    (∃ offset, text.Locates place offset) ∨ ∃ refusal, text.Mislocates place refusal := by
  cases resolved : (LineTable.ofText text).offsetOf place with
  | ok offset => exact .inl ⟨offset, LineTable.offsetOf_eq_ok_iff.mp resolved⟩
  | error refusal => exact .inr ⟨refusal, LineTable.offsetOf_eq_error_iff.mp resolved⟩

namespace Document

/-- A document that calls have led to since it was created. -/
inductive Reached : Document → Prop where
  | create
      (uri : Uri)
      (opening : Nat)
      (text : Text)
      (limit : Option Nat) :
      Reached (Document.create uri opening text limit)
  | revise
      {document : Document}
      (revision : Revision) :
      Reached document →
      Reached (document.revise revision)
  | setByteOrderMark
      {document : Document}
      (mark : ByteOrderMark) :
      Reached document →
      Reached (document.setByteOrderMark mark)

theorem Reached.lines
    {document : Document}
    (reached : document.Reached) :
    document.lines = LineTable.ofText document.content := by
  have booked : ∃ limit, document.Booked limit := by
    induction reached with
    | create uri opening text limit =>
        exact ⟨limit, .create uri opening text limit⟩
    | revise revision _ inductionHypothesis =>
        obtain ⟨limit, booked⟩ := inductionHypothesis
        exact ⟨limit, booked.revise revision⟩
    | setByteOrderMark mark _ inductionHypothesis =>
        obtain ⟨limit, booked⟩ := inductionHypothesis
        exact ⟨limit, booked.setByteOrderMark mark⟩
  obtain ⟨limit, booked⟩ := booked
  exact booked.lines

section Places

variable {document : Document} {place : LineColumn} {offset : Nat}

/-- A document asks its table for the place of an offset only if the offset is a boundary. -/
theorem lineColumnOf_eq_ok_iff
    (lines : document.lines = LineTable.ofText document.content) :
    document.lineColumnOf offset = .ok place ↔
      document.content.isBoundary offset = true ∧ document.content.Locates place offset := by
  rw [lineColumnOf, lines, ← LineTable.lineColumnOf_eq_ok_iff, ← Text.checkOffset_eq_ok_iff]
  cases document.content.checkOffset offset with
  | error refusal =>
      simp [bind, Except.bind]
  | ok accepted =>
      simp [bind, Except.bind]

theorem lineColumnOf_of_inside
    (inText : offset ≤ document.content.size)
    (inside : document.content.isBoundary offset = false) :
    document.lineColumnOf offset = .error (.notCharacterBoundary offset) := by
  rw [lineColumnOf, Text.checkOffset, if_neg (Nat.not_lt.mpr inText), inside]
  rfl

/-- A document gives away the offset of a place only if it is a boundary. -/
theorem offsetOf_of_locates
    (lines : document.lines = LineTable.ofText document.content)
    (locates : document.content.Locates place offset) :
    document.offsetOf place =
      if document.content.isBoundary offset then
        .ok offset
      else
        .error (.notCharacterBoundary offset) := by
  have inText := Nat.not_lt.mpr locates.le_size
  rw [offsetOf, lines, LineTable.offsetOf_eq_ok_iff.mpr locates]
  simp only [bind, Except.bind, Text.checkOffset, if_neg inText]
  cases document.content.isBoundary offset <;> rfl

theorem offsetOf_of_mislocates
    {refusal : Refusal}
    (lines : document.lines = LineTable.ofText document.content)
    (mislocates : document.content.Mislocates place refusal) :
    document.offsetOf place = .error refusal := by
  rw [offsetOf, lines, LineTable.offsetOf_eq_error_iff.mpr mislocates]
  rfl

theorem offsetOf_eq_ok_iff
    (lines : document.lines = LineTable.ofText document.content) :
    document.offsetOf place = .ok offset ↔
      document.content.isBoundary offset = true ∧ document.content.Locates place offset := by
  constructor
  · intro resolved
    rcases document.content.locates_or_mislocates place with
        ⟨located, locates⟩ | ⟨refusal, mislocates⟩
    · rw [offsetOf_of_locates lines locates] at resolved
      split at resolved
      · rename_i boundary
        obtain rfl := Except.ok.inj resolved
        exact ⟨boundary, locates⟩
      · cases resolved
    · rw [offsetOf_of_mislocates lines mislocates] at resolved
      cases resolved
  · rintro ⟨boundary, locates⟩
    rw [offsetOf_of_locates lines locates, if_pos boundary]

/-- The causes for which a document refuses a place. -/
theorem offsetOf_eq_error_iff
    {refusal : Refusal}
    (lines : document.lines = LineTable.ofText document.content) :
    document.offsetOf place = .error refusal ↔
      document.content.Mislocates place refusal ∨
        ∃ offset,
          document.content.Locates place offset ∧
            document.content.isBoundary offset = false ∧
            refusal = .notCharacterBoundary offset := by
  constructor
  · intro refused
    rcases document.content.locates_or_mislocates place with
        ⟨located, locates⟩ | ⟨cause, mislocates⟩
    · rw [offsetOf_of_locates lines locates] at refused
      split at refused
      · cases refused
      · rename_i inside
        exact .inr ⟨located, locates, Bool.eq_false_iff.mpr inside, (Except.error.inj refused).symm⟩
    · rw [offsetOf_of_mislocates lines mislocates] at refused
      obtain rfl := Except.error.inj refused
      exact .inl mislocates
  · rintro (mislocates | ⟨located, locates, inside, rfl⟩)
    · exact offsetOf_of_mislocates lines mislocates
    · rw [offsetOf_of_locates lines locates, inside]
      rfl

end Places

end Document

namespace Text

/--
Offsets of one kind and places correspond: each offset has a place, on the line
that as many breaks precede as stop at the offset or before it, the offset is
found from the place and the place from the offset, and the places come in the
order of the offsets.
-/
structure Corresponds
    (text : Text)
    (isOffset : Nat → Prop)
    (placeOf : Nat → Except Refusal LineColumn)
    (offsetOf : LineColumn → Except Refusal Nat) :
    Prop where
  place :
    ∀ offset,
      isOffset offset →
      ∃ column,
        let place : LineColumn :=
          ⟨text.lineBreaks.countP fun lineBreak => lineBreak.stop ≤ offset, column⟩
        placeOf offset = .ok place ∧ offsetOf place = .ok offset
  offset :
    ∀ place offset,
      offsetOf place = .ok offset →
      isOffset offset ∧ placeOf offset = .ok place
  precedes :
    ∀ first second firstPlace secondPlace,
      placeOf first = .ok firstPlace →
      placeOf second = .ok secondPlace →
      first < second →
      firstPlace.Precedes secondPlace

/-- Two functions that find what the lines of a text locate correspond. -/
theorem Corresponds.of_locates
    {text : Text}
    {isOffset : Nat → Prop}
    {placeOf : Nat → Except Refusal LineColumn}
    {offsetOf : LineColumn → Except Refusal Nat}
    (inText : ∀ offset, isOffset offset → offset ≤ text.size)
    (places :
      ∀ place offset, placeOf offset = .ok place ↔ isOffset offset ∧ text.Locates place offset)
    (offsets :
      ∀ place offset, offsetOf place = .ok offset ↔ isOffset offset ∧ text.Locates place offset) :
    text.Corresponds isOffset placeOf offsetOf where
  place := by
    intro offset asked
    obtain ⟨located, locates⟩ := exists_locates (inText offset asked)
    refine ⟨located.column, ?_⟩
    rw [← locates.line_eq_countP]
    exact ⟨(places _ _).mpr ⟨asked, locates⟩, (offsets _ _).mpr ⟨asked, locates⟩⟩
  offset := by
    intro place offset found
    have located := (offsets place offset).mp found
    exact ⟨located.1, (places place offset).mpr located⟩
  precedes := by
    intro first second firstPlace secondPlace firstFound secondFound before
    exact ((places _ _).mp firstFound).2.precedes ((places _ _).mp secondFound).2 before

/--
Between the offsets of a text and the lines and columns that its table has, the
table converts in both directions, whichever way it searches its starts, and
refuses all others.  Any document with this text, whatever has happened to it,
converts in the same way between the boundaries and their places, and refuses
the offsets inside characters and their places as well.
-/
theorem lineColumnOf_corresponds_offsetOf (text : Text) :
    let table := LineTable.ofText text
    (text.Corresponds (· ≤ text.size) table.lineColumnOf table.offsetOf ∧
      (∀ place refusal, table.offsetOf place = .error refusal ↔ text.Mislocates place refusal) ∧
      ∀ offset answer,
        offset ≤ text.size →
        LineTable.SearchAnswers table.starts offset answer →
        LineTable.lineOfAnswer answer = table.lineContaining offset) ∧
      ∀ document : Document,
        document.Reached →
        document.content = text →
        text.Corresponds (text.isBoundary · = true) document.lineColumnOf document.offsetOf ∧
          (∀ offset,
            offset ≤ text.size →
            text.isBoundary offset = false →
            document.lineColumnOf offset = .error (.notCharacterBoundary offset)) ∧
          ∀ place refusal,
            document.offsetOf place = .error refusal ↔
              text.Mislocates place refusal ∨
                ∃ offset,
                  text.Locates place offset ∧
                    text.isBoundary offset = false ∧
                    refusal = .notCharacterBoundary offset := by
  intro table
  refine ⟨⟨?_, fun place refusal => LineTable.offsetOf_eq_error_iff, ?_⟩, ?_⟩
  · refine .of_locates (fun offset inText => inText) ?_ ?_
    · intro place offset
      rw [LineTable.lineColumnOf_eq_ok_iff]
      exact (and_iff_right_of_imp Locates.le_size).symm
    · intro place offset
      rw [LineTable.offsetOf_eq_ok_iff]
      exact (and_iff_right_of_imp Locates.le_size).symm
  · intro offset answer inText answers
    exact LineTable.lineOfAnswer_eq_lineContaining inText answers
  · rintro document reached rfl
    have lines := reached.lines
    refine ⟨?_, ?_, ?_⟩
    · refine .of_locates (fun offset => le_size_of_isBoundary) ?_ ?_
      · exact fun place offset => Document.lineColumnOf_eq_ok_iff lines
      · exact fun place offset => Document.offsetOf_eq_ok_iff lines
    · exact fun offset => Document.lineColumnOf_of_inside
    · exact fun place refusal => Document.offsetOf_eq_error_iff lines

/-- An edit joins a pair and another is refused; then places inside the two breaks are asked for. -/
theorem lineColumnOf_inside_breaks :
    let text : Text := ['é', '\r', '\n', '\u2028']
    let table := LineTable.ofText text
    let document :=
      ((Document.create .untitled 1 ['é', '\n', '\u2028'] none).revise (.edit 2 2 ['\r'])).revise
        (.edit 1 1 [])
    (document.Reached ∧ document.content = text ∧
        5 ≤ text.size ∧ text.isBoundary 5 = false ∧ text.isBoundary 3 = true ∧
        LineTable.SearchAnswers table.starts 5 (.error 2)) ∧
      LineTable.lineOfAnswer (.error 2) = table.lineContaining 5 ∧
      (∃ column,
        table.lineColumnOf 5 = .ok ⟨1, column⟩ ∧ table.offsetOf ⟨1, column⟩ = .ok 5) ∧
      (∃ column,
        document.lineColumnOf 3 = .ok ⟨0, column⟩ ∧ document.offsetOf ⟨0, column⟩ = .ok 3) ∧
      document.lineColumnOf 5 = .error (.notCharacterBoundary 5) := by
  intro text table document
  have reached : document.Reached :=
    .revise (.edit 1 1 []) (.revise (.edit 2 2 ['\r']) (.create .untitled 1 _ none))
  have content : document.content = text := by
    decide
  have inText : 5 ≤ text.size := by
    decide
  have inside : text.isBoundary 5 = false := by
    decide
  have boundary : text.isBoundary 3 = true := by
    decide
  have answers : LineTable.SearchAnswers table.starts 5 (.error 2) := by
    refine .missing (by decide) ?_ ?_
    · intro before number earlier stands
      obtain rfl | rfl : before = 0 ∨ before = 1 := by omega
      · obtain rfl := Option.some.inj stands
        decide
      · obtain rfl := Option.some.inj stands
        decide
    · intro behind number later stands
      have inRange : behind < 3 := (List.getElem?_eq_some_iff.mp stands).1
      obtain rfl : behind = 2 := by omega
      obtain rfl := Option.some.inj stands
      decide
  obtain ⟨⟨corresponds, -, searched⟩, documents⟩ := lineColumnOf_corresponds_offsetOf text
  obtain ⟨ofDocument, refused, -⟩ := documents document reached content
  exact
    ⟨⟨reached, content, inText, inside, boundary, answers⟩, searched 5 _ inText answers,
      corresponds.place 5 inText, ofDocument.place 3 boundary, refused 5 inText inside⟩

end Text

end VersionedText
