import VersionedText.Proofs.Batches
import VersionedText.Proofs.Places

namespace VersionedText

/-!
# Edits by positions

An editor replaces what lies between two positions, a host what lies between two
offsets.  In a document whose table is that of its text both are the same edit:
a change by positions is refused when one of them names no offset or when they
are inverted, and else it is the edit between the offsets that they name.  In the
other direction, the range that is reported for a span leads back to the edit of
the span, unless an end of the span is inside a pair.
-/

namespace Text

/--
A change of a range is refused with a cause: the start of the range names no
offset, or else its stop does not, or else it stops before it starts.
-/
inductive RefusesRange (text : Text) (range : EditorRange) : Refusal → Prop where
  | start
      {refusal : Refusal} :
      text.Misnames range.start refusal →
      RefusesRange text range refusal
  | stop
      {start : Nat}
      {refusal : Refusal} :
      text.Names range.start start →
      text.Misnames range.stop refusal →
      RefusesRange text range refusal
  | inverted
      {start stop : Nat} :
      text.Names range.start start →
      text.Names range.stop stop →
      range.stop.Precedes range.start →
      RefusesRange text range (.rangeOutOfRange start stop text.size)

/-- Both positions of a range name offsets, unless there is a cause to refuse it. -/
theorem names_or_refusesRange
    (text : Text)
    (range : EditorRange) :
    (∃ start stop, text.Names range.start start ∧ text.Names range.stop stop) ∨
      ∃ refusal, text.RefusesRange range refusal := by
  rcases text.names_or_misnames range.start with ⟨start, startNames⟩ | ⟨refusal, misnames⟩
  · rcases text.names_or_misnames range.stop with ⟨stop, stopNames⟩ | ⟨refusal, misnames⟩
    · exact .inl ⟨start, stop, startNames, stopNames⟩
    · exact .inr ⟨refusal, .stop startNames misnames⟩
  · exact .inr ⟨refusal, .start misnames⟩

/-- No cause for which a range is refused is an offset inside a character. -/
theorem RefusesRange.ne_notCharacterBoundary
    {text : Text}
    {range : EditorRange}
    {refusal : Refusal}
    (refuses : text.RefusesRange range refusal)
    (offset : Nat) :
    refusal ≠ .notCharacterBoundary offset := by
  rintro rfl
  cases refuses with
  | start misnames => cases misnames
  | stop _ misnames => cases misnames

end Text

namespace Document

variable {document : Document} {range : EditorRange}

theorem edit_eq_error_iff
    {start stop : Nat}
    {inserted : Text}
    {refusal : Refusal} :
    document.edit start stop inserted = .error refusal ↔
      document.content.checkRange start stop = .error refusal := by
  rw [edit]
  cases document.content.checkRange start stop with
  | error reason =>
      simp [bind, Except.bind]
  | ok accepted =>
      simp [bind, Except.bind, pure, Except.pure]

/-- An edit between two offsets that are named is refused exactly if they are inverted. -/
theorem edit_eq_error_iff_of_names
    {start stop : Nat}
    (startNames : document.content.Names range.start start)
    (stopNames : document.content.Names range.stop stop)
    (inserted : Text)
    (refusal : Refusal) :
    document.edit start stop inserted = .error refusal ↔
      range.stop.Precedes range.start ∧
        refusal = .rangeOutOfRange start stop document.content.size := by
  rw [edit_eq_error_iff,
    Text.checkRange_of_isBoundary startNames.isBoundary stopNames.isBoundary,
    ← stopNames.lt_iff_precedes startNames]
  by_cases inverted : stop < start
  · simp [inverted, eq_comm]
  · simp [inverted]

section Resolved

variable (lines : document.lines = LineTable.ofText document.content)

include lines

/-- A change between two positions that name offsets is the edit between these offsets. -/
theorem applyChange_of_names
    {start stop : Nat}
    (startNames : document.content.Names range.start start)
    (stopNames : document.content.Names range.stop stop)
    (inserted : Text) :
    document.applyChange (.ranged range inserted) = document.edit start stop inserted := by
  have startFound := LineTable.offsetOfEditorPosition_eq_ok_iff.mpr startNames
  have stopFound := LineTable.offsetOfEditorPosition_eq_ok_iff.mpr stopNames
  simp only [applyChange, offsetOfEditorPosition, lines, startFound, stopFound, bind, Except.bind]

/-- Positions are resolved in order, and the first that names no offset ends the change. -/
theorem applyChange_of_refusesRange
    {refusal : Refusal}
    (refuses : document.content.RefusesRange range refusal)
    (inserted : Text) :
    document.applyChange (.ranged range inserted) = .error refusal := by
  cases refuses with
  | start misnames =>
      have refused := LineTable.offsetOfEditorPosition_eq_error_iff.mpr misnames
      simp only [applyChange, offsetOfEditorPosition, lines, refused, bind, Except.bind]
  | stop startNames misnames =>
      have startFound := LineTable.offsetOfEditorPosition_eq_ok_iff.mpr startNames
      have refused := LineTable.offsetOfEditorPosition_eq_error_iff.mpr misnames
      simp only [applyChange, offsetOfEditorPosition, lines, startFound, refused, bind,
        Except.bind]
  | inverted startNames stopNames inverted =>
      rw [applyChange_of_names lines startNames stopNames,
        edit_eq_error_iff_of_names startNames stopNames]
      exact ⟨inverted, rfl⟩

/-- A change between two positions is refused for the causes that its range has, and no others. -/
theorem applyChange_eq_error_iff
    (inserted : Text)
    (refusal : Refusal) :
    document.applyChange (.ranged range inserted) = .error refusal ↔
      document.content.RefusesRange range refusal := by
  refine ⟨?_, fun refuses => applyChange_of_refusesRange lines refuses inserted⟩
  intro refused
  rcases document.content.names_or_refusesRange range with
      ⟨start, stop, startNames, stopNames⟩ | ⟨cause, refuses⟩
  · rw [applyChange_of_names lines startNames stopNames,
      edit_eq_error_iff_of_names startNames stopNames] at refused
    obtain ⟨inverted, rfl⟩ := refused
    exact .inverted startNames stopNames inverted
  · rw [applyChange_of_refusesRange lines refuses] at refused
    obtain rfl := Except.error.inj refused
    exact refuses

/-- Both positions of a change that is accepted name offsets. -/
theorem exists_names_of_applyChange
    {inserted : Text}
    {changed : Document}
    (accepted : document.applyChange (.ranged range inserted) = .ok changed) :
    ∃ start stop,
      document.content.Names range.start start ∧ document.content.Names range.stop stop := by
  rcases document.content.names_or_refusesRange range with named | ⟨refusal, refuses⟩
  · exact named
  · rw [applyChange_of_refusesRange lines refuses] at accepted
    cases accepted

/-- The range that is reported for a span names its ends, if none of them is inside a pair. -/
theorem names_of_editorRangeOf
    {span : Span}
    (reported : document.editorRangeOf span = .ok range)
    (startOutside : ¬document.content.InsidePair span.start)
    (stopOutside : ¬document.content.InsidePair span.stop) :
    document.content.Names range.start span.start ∧
      document.content.Names range.stop span.stop := by
  rw [editorRangeOf, lines, LineTable.editorRangeOf_eq_ok_iff] at reported
  obtain ⟨-, startTold, stopTold⟩ := reported
  obtain ⟨start, startNames⟩ :=
    Text.exists_names (LineTable.isBoundary_of_editorPositionOf startTold) startOutside
  obtain ⟨stop, stopNames⟩ :=
    Text.exists_names (LineTable.isBoundary_of_editorPositionOf stopTold) stopOutside
  rw [LineTable.editorPositionOf_of_names startNames] at startTold
  rw [LineTable.editorPositionOf_of_names stopNames] at stopTold
  obtain rfl := Except.ok.inj startTold
  obtain rfl := Except.ok.inj stopTold
  exact ⟨startNames, stopNames⟩

end Resolved

end Document

namespace Project

/-- Changes of a document that come to the same are the same change of the project. -/
theorem change_congr
    {project : Project}
    {uri : Uri}
    {document : Document}
    (alive : project.document? uri = some document)
    {first second : Document → Except Refusal Document}
    (same : first document = second document) :
    project.change uri first = project.change uri second := by
  simp only [change, ask, alive, same]

/-- The answer to a change is a refusal exactly if the document refuses it. -/
theorem change_eq_error_iff
    {project : Project}
    {uri : Uri}
    {document : Document}
    (alive : project.document? uri = some document)
    (alter : Document → Except Refusal Document)
    (refusal : Refusal) :
    (project.change uri alter).2 = .error refusal ↔ alter document = .error refusal := by
  simp only [change, ask, alive]
  cases alter document <;> simp

theorem exists_of_change_eq_ok
    {project : Project}
    {uri : Uri}
    {document : Document}
    (alive : project.document? uri = some document)
    {alter : Document → Except Refusal Document}
    {version : Nat}
    (accepted : (project.change uri alter).2 = .ok version) :
    ∃ changed, alter document = .ok changed := by
  simp only [change, ask, alive] at accepted
  cases altered : alter document with
  | ok changed =>
      exact ⟨changed, rfl⟩
  | error refusal =>
      rw [altered] at accepted
      cases accepted

/--
In a project with any past, a change between two positions of an open file is
refused exactly for the first cause that its range has, and never for an offset
inside a character.  If it is accepted, both positions name offsets, and what
comes of it is what comes of the edit between these offsets.  So it is with the
range that is reported for a span, unless an end of the span is inside a pair:
sent back as a change it is the edit of the span, and its numbers are words if
the length of the text is.
-/
theorem applyChanges_ranged_eq_edit
    {settings : DocumentSettings}
    {calls : List ProjectCall}
    {uri : Uri}
    {document : Document}
    (alive : ((Project.empty settings).run calls).document? uri = some document) :
    let project := (Project.empty settings).run calls
    let content := document.content
    (∀ (range : EditorRange) (inserted : Text),
      let answered := project.applyChanges uri [.ranged range inserted]
      (∀ refusal, answered.2 = .error refusal ↔ content.RefusesRange range refusal) ∧
        (∀ offset, answered.2 ≠ .error (.notCharacterBoundary offset)) ∧
        ∀ version, answered.2 = .ok version →
          ∃ start stop,
            content.Names range.start start ∧
              content.Names range.stop stop ∧
              answered = project.edit uri start stop inserted) ∧
      ∀ (span : Span) (range : EditorRange),
        (project.ask uri fun current => current.editorRangeOf span) = .ok range →
        ¬content.InsidePair span.start →
        ¬content.InsidePair span.stop →
        (∀ inserted,
          project.applyChanges uri [.ranged range inserted] =
            project.edit uri span.start span.stop inserted) ∧
          (content.size < Json.Decoder.wordBound →
            range.start.FitsWords ∧ range.stop.FitsWords) := by
  intro project content
  have maintained := (Maintained.empty settings).run calls
  have lines := maintained.lines alive
  have single (range : EditorRange) (inserted : Text) :=
    applyChanges_singleton maintained.sorted uri (.ranged range inserted)
  refine ⟨?_, ?_⟩
  · intro range inserted answered
    have refused (refusal : Refusal) :
        answered.2 = .error refusal ↔ content.RefusesRange range refusal := by
      rw [← Document.applyChange_eq_error_iff lines inserted refusal]
      simp only [answered, project, single]
      exact change_eq_error_iff alive _ refusal
    refine ⟨refused, ?_, ?_⟩
    · intro offset misplaced
      exact ((refused _).mp misplaced).ne_notCharacterBoundary offset rfl
    · intro version accepted
      simp only [answered, project, single] at accepted ⊢
      obtain ⟨changed, altered⟩ := exists_of_change_eq_ok alive accepted
      obtain ⟨start, stop, startNames, stopNames⟩ :=
        Document.exists_names_of_applyChange lines altered
      refine ⟨start, stop, startNames, stopNames, ?_⟩
      exact change_congr alive (Document.applyChange_of_names lines startNames stopNames inserted)
  · intro span range reported startOutside stopOutside
    rw [ask, alive] at reported
    obtain ⟨startNames, stopNames⟩ :=
      Document.names_of_editorRangeOf lines reported startOutside stopOutside
    refine ⟨?_, ?_⟩
    · intro inserted
      rw [single]
      exact change_congr alive (Document.applyChange_of_names lines startNames stopNames inserted)
    · intro short
      exact ⟨startNames.fitsWords short, stopNames.fitsWords short⟩

/-- On the line behind a pair, a character of two units and four bytes is replaced. -/
theorem applyChanges_ranged_behind_pair :
    let content : Text := ['a', '\r', '\n', '😀', 'b']
    let calls : List ProjectCall := [.host (.direct (.openFile .untitled content .absent))]
    let project := (Project.empty .default).run calls
    let range : EditorRange := ⟨⟨1, 0⟩, ⟨1, 2⟩⟩
    let answered := project.applyChanges .untitled [.ranged range ['é']]
    (project.document? .untitled = some (Document.create .untitled 1 content none) ∧
        answered.2 = .ok 2 ∧
        (project.ask .untitled fun current => current.editorRangeOf ⟨3, 7⟩) = .ok range ∧
        ¬content.InsidePair 3 ∧ ¬content.InsidePair 7 ∧
        content.size < Json.Decoder.wordBound) ∧
      (∃ start stop,
        content.Names range.start start ∧
          content.Names range.stop stop ∧
          answered = project.edit .untitled start stop ['é']) ∧
      answered = project.edit .untitled 3 7 ['é'] ∧
      range.start.FitsWords ∧ range.stop.FitsWords := by
  intro content calls project range answered
  have alive : project.document? .untitled = some (Document.create .untitled 1 content none) := by
    decide
  have accepted : answered.2 = .ok 2 := by
    decide
  have reported :
      (project.ask .untitled fun current => current.editorRangeOf ⟨3, 7⟩) = .ok range := by
    decide
  have startOutside : ¬content.InsidePair 3 := by
    decide
  have stopOutside : ¬content.InsidePair 7 := by
    decide
  have short : content.size < Json.Decoder.wordBound := by
    decide
  obtain ⟨byPositions, bySpan⟩ := applyChanges_ranged_eq_edit alive
  obtain ⟨sameEdit, words⟩ := bySpan ⟨3, 7⟩ range reported startOutside stopOutside
  exact
    ⟨⟨alive, accepted, reported, startOutside, stopOutside, short⟩,
      (byPositions range ['é']).2.2 2 accepted, sameEdit ['é'], words short⟩

end Project

end VersionedText
