import VersionedText.Document
import VersionedText.Proofs.Recount

namespace VersionedText

/-!
# Documents under revision

A run of revisions takes a document through a sequence of texts, one for each
version.  The document itself keeps only the last of them.  Its history is sound
if some assignment of texts to versions is recounted by it, and a run only ever
adds to that assignment: a version keeps its text for good.  So every change
that a document reports, at whatever moment and between whatever versions,
rebuilds the text that the newer version had from the one that the older had.
-/

/-- A call that may change the text of a document. -/
inductive Revision where
  /-- The text between two byte offsets is replaced. -/
  | edit (start stop : Nat) (inserted : Text)
  /-- The whole text is replaced. -/
  | replacement (text : Text)
  deriving Repr, DecidableEq

namespace Document

/-- The document after an attempt to alter it; a refusal leaves it as it was. -/
def attempt (document : Document) (alter : Document → Except Refusal Document) : Document :=
  match alter document with
  | .ok altered => altered
  | .error _ => document

/-- The document after a call. -/
def revise (document : Document) : Revision → Document
  | .edit start stop inserted =>
      document.attempt fun current => current.edit start stop inserted
  | .replacement text => document.replaceContent text

/-- The document after a run of calls. -/
def reviseAll (document : Document) (revisions : List Revision) : Document :=
  revisions.foldl revise document

/-- At some moment of a run the document was at the version and had the text. -/
def Held
    (document : Document)
    (revisions : List Revision)
    (version : Nat)
    (text : Text) :
    Prop :=
  ∃ earlier,
    earlier <+: revisions ∧
      (document.reviseAll earlier).version = version ∧
      (document.reviseAll earlier).content = text

/-- Texts by version, with the current text of a document put in. -/
def note (textAt : Nat → Text) (document : Document) (version : Nat) : Text :=
  if version = document.version then document.content else textAt version

/-- The document has its current text by version, and its history recounts how it got there. -/
structure Follows (document : Document) (textAt : Nat → Text) : Prop where
  content : textAt document.version = document.content
  currentVersion : document.history.currentVersion = document.version
  recounts : document.history.Recounts textAt

@[simp]
theorem note_version
    (textAt : Nat → Text)
    (document : Document) :
    note textAt document document.version = document.content := by
  simp [note]

theorem note_of_ne
    {textAt : Nat → Text}
    {document : Document}
    {version : Nat}
    (different : version ≠ document.version) :
    note textAt document version = textAt version := by
  simp [note, different]

theorem note_eq_self
    {textAt : Nat → Text}
    {document : Document}
    (content : textAt document.version = document.content) :
    note textAt document = textAt := by
  funext version
  by_cases same : version = document.version
  · rw [same, note_version, content]
  · exact note_of_ne same

/-- What an accepted edit makes of a document. -/
theorem edit_eq_ok_iff
    (document edited : Document)
    (start stop : Nat)
    (inserted : Text) :
    document.edit start stop inserted = .ok edited ↔
      document.content.checkRange start stop = .ok () ∧
        edited =
          { document with
            version := document.version + 1
            content := document.content.splice start stop inserted
            lines :=
              document.lines.update (document.content.splice start stop inserted)
                start stop inserted.size
            history :=
              document.history.push
                ⟨⟨start, stop⟩, inserted.size,
                  (document.content.splice start stop inserted).size⟩ } := by
  rw [edit]
  cases checked : document.content.checkRange start stop with
  | error refusal =>
      simp [bind, Except.bind]
  | ok accepted =>
      simp [bind, Except.bind, pure, Except.pure, eq_comm]

namespace Follows

/-- A new document follows its only text. -/
theorem create
    (uri : Uri)
    (opening : Nat)
    (text : Text)
    (limit : Option Nat) :
    (Document.create uri opening text limit).Follows fun _ => text where
  content := rfl
  currentVersion := rfl
  recounts := .start limit rfl

theorem setByteOrderMark
    {document : Document}
    {textAt : Nat → Text}
    (follows : document.Follows textAt)
    (mark : ByteOrderMark) :
    (document.setByteOrderMark mark).Follows textAt where
  content := follows.content
  currentVersion := follows.currentVersion
  recounts := follows.recounts

/-- With a text put in at the next version, the history recounts the same as before. -/
theorem recounts_note
    {document next : Document}
    {textAt : Nat → Text}
    (follows : document.Follows textAt)
    (nextVersion : next.version = document.version + 1) :
    document.history.Recounts (note textAt next) := by
  apply follows.recounts.congr
  intro version past
  rw [follows.currentVersion] at past
  exact note_of_ne (by omega)

/-- An accepted edit leads to the next version, and its record rewrites the text. -/
theorem edit
    {document edited : Document}
    {textAt : Nat → Text}
    {start stop : Nat}
    {inserted : Text}
    (follows : document.Follows textAt)
    (accepted : document.edit start stop inserted = .ok edited) :
    edited.Follows (note textAt edited) := by
  obtain ⟨checked, rfl⟩ := (edit_eq_ok_iff _ _ _ _ _).mp accepted
  obtain ⟨head, removed, tail, contentShape, rfl, rfl⟩ :=
    (Text.checkRange_eq_ok_iff _ _ _).mp checked
  have editedShape := Text.splice_append_size head removed inserted tail
  rw [← contentShape] at editedShape
  refine ⟨note_version _ _, ?_, ?_⟩
  · rw [History.currentVersion_push, follows.currentVersion]
  · apply (follows.recounts_note rfl).push
    rw [follows.currentVersion, note_version,
      note_of_ne (Nat.ne_of_lt (Nat.lt_succ_self document.version)), follows.content]
    refine ⟨?_, rfl⟩
    rw [ChangeRange.explains_iff_parts]
    exact ⟨head, removed, inserted, tail, contentShape, editedShape, rfl⟩

/-- After a replacement the history recounts the new text alone. -/
theorem replaceContent
    {document : Document}
    {textAt : Nat → Text}
    (follows : document.Follows textAt)
    (text : Text) :
    (document.replaceContent text).Follows
      (note textAt (document.replaceContent text)) := by
  by_cases same : document.content = text
  · simp only [Document.replaceContent, if_pos same]
    rw [note_eq_self follows.content]
    exact follows
  · simp only [Document.replaceContent, if_neg same]
    exact
      { content := note_version _ _
        currentVersion := History.currentVersion_reset _ _ _
        recounts := .start _ (by simp [note]) }

/-- A call keeps a document in step with its texts once the text it leaves is put in. -/
theorem revise
    {document : Document}
    {textAt : Nat → Text}
    (follows : document.Follows textAt)
    (revision : Revision) :
    (document.revise revision).Follows (note textAt (document.revise revision)) := by
  cases revision with
  | edit start stop inserted =>
      simp only [Document.revise, attempt]
      split
      · rename_i edited accepted
        exact follows.edit accepted
      · rw [note_eq_self follows.content]
        exact follows
  | replacement text =>
      exact follows.replaceContent text

end Follows

/-- A call either leaves the document alone or leads to its next version. -/
theorem revise_eq_or_version
    (document : Document)
    (revision : Revision) :
    document.revise revision = document ∨
      (document.revise revision).version = document.version + 1 := by
  cases revision with
  | edit start stop inserted =>
      simp only [revise, attempt]
      split
      · rename_i edited accepted
        obtain ⟨-, rfl⟩ := (edit_eq_ok_iff _ _ _ _ _).mp accepted
        exact .inr rfl
      · exact .inl rfl
  | replacement text =>
      by_cases same : document.content = text
      · exact .inl (by simp [revise, replaceContent, same])
      · exact .inr (by simp [revise, replaceContent, same])

/-- A call does not change what file and what opening a document is of. -/
theorem source_revise
    (document : Document)
    (revision : Revision) :
    (document.revise revision).uri = document.uri ∧
      (document.revise revision).opening = document.opening := by
  cases revision with
  | edit start stop inserted =>
      simp only [revise, attempt]
      split
      · rename_i edited accepted
        obtain ⟨-, rfl⟩ := (edit_eq_ok_iff _ _ _ _ _).mp accepted
        exact ⟨rfl, rfl⟩
      · exact ⟨rfl, rfl⟩
  | replacement text =>
      by_cases same : document.content = text <;>
        simp [revise, replaceContent, same]

/-- A ranged change that is accepted is an edit. -/
theorem edit_of_applyChange
    {document changed : Document}
    {range : EditorRange}
    {text : Text}
    (accepted : document.applyChange (.ranged range text) = .ok changed) :
    ∃ start stop, document.edit start stop text = .ok changed := by
  rw [applyChange] at accepted
  cases startFound : document.offsetOfEditorPosition range.start with
  | error refusal =>
      rw [startFound] at accepted
      cases accepted
  | ok start =>
      cases stopFound : document.offsetOfEditorPosition range.stop with
      | error refusal =>
          rw [startFound, stopFound] at accepted
          cases accepted
      | ok stop =>
          rw [startFound, stopFound] at accepted
          exact ⟨start, stop, accepted⟩

/-- A change from an editor that is accepted is a revision. -/
theorem exists_revise_of_applyChange
    {document changed : Document}
    {change : ContentChange}
    (accepted : document.applyChange change = .ok changed) :
    ∃ revision, document.revise revision = changed := by
  cases change with
  | ranged range text =>
      obtain ⟨start, stop, edited⟩ := edit_of_applyChange accepted
      refine ⟨.edit start stop text, ?_⟩
      simp only [revise, attempt, edited]
  | full text =>
      exact ⟨.replacement text, Except.ok.inj accepted⟩

/-- A batch of changes from an editor is a run of revisions, as far as it is carried out. -/
theorem exists_reviseAll_of_applyChanges
    (document : Document)
    (changes : List ContentChange) :
    ∃ revisions, document.reviseAll revisions = (document.applyChanges changes).1 := by
  induction changes generalizing document with
  | nil =>
      exact ⟨[], rfl⟩
  | cons change later inductionHypothesis =>
      rw [applyChanges]
      cases outcome : document.applyChange change with
      | error refusal =>
          exact ⟨[], rfl⟩
      | ok changed =>
          obtain ⟨revision, revised⟩ := exists_revise_of_applyChange outcome
          obtain ⟨revisions, revisedAll⟩ := inductionHypothesis changed
          refine ⟨revision :: revisions, ?_⟩
          rw [← revisedAll, ← revised]
          rfl

/-- Versions never go back. -/
theorem version_le_revise
    (document : Document)
    (revision : Revision) :
    document.version ≤ (document.revise revision).version := by
  rcases document.revise_eq_or_version revision with unrevised | next
  · exact Nat.le_of_eq (congrArg version unrevised.symm)
  · omega

/-- A call leaves the texts of all versions so far alone. -/
theorem Follows.note_revise
    {document : Document}
    {textAt : Nat → Text}
    (follows : document.Follows textAt)
    (revision : Revision)
    {version : Nat}
    (past : version ≤ document.version) :
    note textAt (document.revise revision) version = textAt version := by
  rcases document.revise_eq_or_version revision with unrevised | next
  · rw [unrevised, note_eq_self follows.content]
  · exact note_of_ne (by omega)

/--
The texts of a run: they extend those known at its start, the document at its
end follows them, and they hold the text of every moment in between.
-/
theorem Follows.reviseAll
    {document : Document}
    {textAt : Nat → Text}
    (follows : document.Follows textAt)
    (revisions : List Revision) :
    ∃ extended : Nat → Text,
      (document.reviseAll revisions).Follows extended ∧
        (∀ version, version ≤ document.version → extended version = textAt version) ∧
        ∀ version text, document.Held revisions version text → extended version = text := by
  induction revisions generalizing document textAt with
  | nil =>
      refine ⟨textAt, follows, fun _ _ => rfl, ?_⟩
      rintro version text ⟨earlier, atStart, rfl, rfl⟩
      obtain rfl := List.prefix_nil.mp atStart
      exact follows.content
  | cons revision later inductionHypothesis =>
      obtain ⟨extended, laterFollows, agree, holds⟩ :=
        inductionHypothesis (follows.revise revision)
      have past := document.version_le_revise revision
      have agreeBefore :
          ∀ version, version ≤ document.version → extended version = textAt version := by
        intro version before
        rw [agree version (Nat.le_trans before past), follows.note_revise revision before]
      refine ⟨extended, laterFollows, agreeBefore, ?_⟩
      rintro version text ⟨earlier, within, rfl, rfl⟩
      rcases List.prefix_cons_iff.mp within with rfl | ⟨rest, rfl, restWithin⟩
      · exact (agreeBefore _ (Nat.le_refl _)).trans follows.content
      · exact holds _ _ ⟨rest, restWithin, rfl, rfl⟩

/--
Whatever revisions a document has gone through, and whatever its history has
forgotten, a change that it reports between two versions rebuilds the text of
the newer from that of the older, cutting both at boundaries; and when the
change is marked as none, the two texts are the same.
-/
theorem rebuild?_of_changeBetween?
    {uri : Uri}
    {opening : Nat}
    {initial : Text}
    {limit : Option Nat}
    {revisions : List Revision}
    {old new : Nat}
    {oldText newText : Text}
    {change : ChangeRange}
    (heldOld : (create uri opening initial limit).Held revisions old oldText)
    (heldNew : (create uri opening initial limit).Held revisions new newText)
    (known :
      ((create uri opening initial limit).reviseAll revisions).changeBetween? old new =
        some change) :
    change.rebuild? oldText newText = some newText ∧
      (oldText.isBoundary change.span.start = true ∧
        oldText.isBoundary change.span.stop = true) ∧
      (newText.isBoundary change.newSpan.start = true ∧
        newText.isBoundary change.newSpan.stop = true) ∧
      (change.isUnchanged = true → oldText = newText) := by
  obtain ⟨textAt, follows, -, holds⟩ :=
    (Follows.create uri opening initial limit).reviseAll revisions
  have explains := follows.recounts.explains_of_exactChangeBetween? known
  rw [holds old oldText heldOld, holds new newText heldNew] at explains
  obtain ⟨oldBoundaries, newBoundaries⟩ := explains.isBoundary
  exact ⟨explains.2, oldBoundaries, newBoundaries, explains.eq_of_isUnchanged⟩

end Document

/-- The URI of a text that has not been saved to a file yet. -/
def Uri.untitled : Uri :=
  ⟨"untitled:1", "untitled:1", rfl⟩

namespace Document

/-- A refused edit and an idle replacement do not disturb the change between two versions. -/
theorem rebuild?_across_refused_edit :
    let document := create .untitled 1 ['a', 'é', 'z'] (some 2)
    let revisions : List Revision :=
      [.edit 1 3 ['ß', '€'], .edit 2 2 ['x'], .replacement ['a', 'ß', '€', 'z'], .edit 0 1 []]
    let change : ChangeRange := ⟨⟨0, 3⟩, 5⟩
    document.Held revisions 1 ['a', 'é', 'z'] ∧
      document.Held revisions 3 ['ß', '€', 'z'] ∧
      (document.reviseAll revisions).changeBetween? 1 3 = some change ∧
      change.rebuild? ['a', 'é', 'z'] ['ß', '€', 'z'] = some ['ß', '€', 'z'] := by
  intro document revisions change
  have heldOld : document.Held revisions 1 ['a', 'é', 'z'] :=
    ⟨[], List.nil_prefix, rfl, rfl⟩
  have atEnd :
      (document.reviseAll revisions).version = 3 ∧
        (document.reviseAll revisions).content = ['ß', '€', 'z'] := by
    simp only [document, revisions]
    decide
  have heldNew : document.Held revisions 3 ['ß', '€', 'z'] :=
    ⟨revisions, List.prefix_rfl, atEnd⟩
  have known : (document.reviseAll revisions).changeBetween? 1 3 = some change := by
    simp only [document, revisions, change]
    decide
  exact ⟨heldOld, heldNew, known, (rebuild?_of_changeBetween? heldOld heldNew known).1⟩

end Document

end VersionedText
