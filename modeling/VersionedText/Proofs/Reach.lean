import VersionedText.Proofs.Calls

namespace VersionedText

/-!
# How far back changes are known

How far back the changes of an open file are known is decided by two numbers:
the limit in force when the file was opened, and the version at which its text
was last replaced as a whole.  The limit is read off the changes of settings among
the calls made on a project, the version off what the calls did to the text of the
document; no history is looked at.  The two decide exactly which changes are
known: the check of lengths that stands before every answer never withholds one.
-/

/-- What decides how far back the changes of an open file are known. -/
structure Reach where
  /-- The limit that was in force when the file was opened. -/
  limit : Option Nat
  /-- The version of the opening, or of the last replacement since that changed the text. -/
  restart : Nat
  deriving Repr, DecidableEq

namespace Reach

/-- The oldest version from which changes are known at a version. -/
def oldest (reach : Reach) (version : Nat) : Nat :=
  History.oldestKept reach.limit reach.restart version

/-- A replacement of the whole text by a different one starts again. -/
def replace (reach : Reach) (document : Document) (text : Text) : Reach :=
  if document.content = text then
    reach
  else
    { reach with restart := (document.replaceContent text).version }

/-- Of the changes that editors send, only the full ones are replacements. -/
def applyChange (reach : Reach) (document : Document) : ContentChange → Reach
  | .ranged .. => reach
  | .full text => reach.replace document text

/-- In a batch, the changes up to the first refusal count. -/
def applyChanges (reach : Reach) (document : Document) : List ContentChange → Reach
  | [] => reach
  | change :: later =>
      match document.applyChange change with
      | .error _ => reach
      | .ok changed => (reach.applyChange document change).applyChanges changed later

/--
The reach after a direct call about a file, given the limit in force and the
document before the call.
-/
def afterFileCall
    (limit : Option Nat)
    (document : Option Document)
    (reach : Option Reach) :
    FileCall → Option Reach
  | .openFile _ text _ =>
      match document with
      | none => some ⟨limit, 1⟩
      | some document => reach.map fun known => known.replace document text
  | .edit .. => reach
  | .setContent _ text =>
      match document with
      | none => reach
      | some document => reach.map fun known => known.replace document text
  | .close _ => none

/-- The reach after any call about a file. -/
def after
    (limit : Option Nat)
    (document : Option Document)
    (reach : Option Reach) :
    ProjectCall → Option Reach
  | .host call => afterFileCall limit document reach call.fileCall
  | .applyChanges _ changes =>
      match document with
      | none => reach
      | some document => reach.map fun known => known.applyChanges document changes
  | .configure _ => reach

end Reach

namespace Document

/-- The history of a document is sound and goes back exactly as far as a reach says. -/
structure Keeps (document : Document) (reach : Reach) : Prop where
  follows : ∃ textAt : Nat → Text, document.Follows textAt
  limit : document.history.limit = reach.limit
  baseVersion : document.history.baseVersion = reach.oldest document.version

namespace Keeps

theorem create
    (uri : Uri)
    (opening : Nat)
    (text : Text)
    (limit : Option Nat) :
    (Document.create uri opening text limit).Keeps ⟨limit, 1⟩ where
  follows := ⟨_, .create uri opening text limit⟩
  limit := rfl
  baseVersion := (History.oldestKept_self limit 1).symm

theorem setByteOrderMark
    {document : Document}
    {reach : Reach}
    (keeps : document.Keeps reach)
    (mark : ByteOrderMark) :
    (document.setByteOrderMark mark).Keeps reach := by
  obtain ⟨textAt, follows⟩ := keeps.follows
  exact
    { follows := ⟨textAt, follows.setByteOrderMark mark⟩
      limit := keeps.limit
      baseVersion := keeps.baseVersion }

/-- An accepted edit may push the oldest version out, and otherwise leaves the reach. -/
theorem edit
    {document edited : Document}
    {reach : Reach}
    {start stop : Nat}
    {inserted : Text}
    (keeps : document.Keeps reach)
    (accepted : document.edit start stop inserted = .ok edited) :
    edited.Keeps reach := by
  obtain ⟨textAt, follows⟩ := keeps.follows
  have editedFollows := follows.edit accepted
  obtain ⟨-, rfl⟩ := (edit_eq_ok_iff _ _ _ _ _).mp accepted
  refine ⟨⟨_, editedFollows⟩, ?_, ?_⟩
  · rw [History.limit_push, keeps.limit]
  · rw [History.baseVersion_push, keeps.limit, keeps.baseVersion, follows.currentVersion]
    exact History.oldestKept_oldestKept reach.limit (Nat.le_succ document.version)

theorem attemptEdit
    {document : Document}
    {reach : Reach}
    (keeps : document.Keeps reach)
    (start stop : Nat)
    (inserted : Text) :
    (document.attempt fun current => current.edit start stop inserted).Keeps reach := by
  rw [attempt]
  split
  · rename_i edited accepted
    exact keeps.edit accepted
  · exact keeps

/-- A replacement that changes the text makes its version the oldest. -/
theorem replaceContent
    {document : Document}
    {reach : Reach}
    (keeps : document.Keeps reach)
    (text : Text) :
    (document.replaceContent text).Keeps (reach.replace document text) := by
  obtain ⟨textAt, follows⟩ := keeps.follows
  have replacedFollows := follows.replaceContent text
  by_cases same : document.content = text
  · rw [Document.replaceContent, Reach.replace, if_pos same, if_pos same]
    exact keeps
  · rw [Reach.replace, if_neg same]
    refine ⟨⟨_, replacedFollows⟩, ?_, ?_⟩
    · rw [Document.replaceContent, if_neg same, History.limit_reset, keeps.limit]
    · rw [Reach.oldest, History.oldestKept_self, Document.replaceContent, if_neg same]
      rfl

theorem applyChange
    {document changed : Document}
    {reach : Reach}
    {change : ContentChange}
    (keeps : document.Keeps reach)
    (accepted : document.applyChange change = .ok changed) :
    changed.Keeps (reach.applyChange document change) := by
  cases change with
  | ranged range text =>
      obtain ⟨start, stop, edited⟩ := edit_of_applyChange accepted
      exact keeps.edit edited
  | full text =>
      cases accepted
      exact keeps.replaceContent text

theorem applyChanges
    {document : Document}
    {reach : Reach}
    (keeps : document.Keeps reach)
    (changes : List ContentChange) :
    (document.applyChanges changes).1.Keeps (reach.applyChanges document changes) := by
  induction changes generalizing document reach with
  | nil =>
      exact keeps
  | cons change later inductionHypothesis =>
      rw [Document.applyChanges, Reach.applyChanges]
      cases accepted : document.applyChange change with
      | error refusal =>
          exact keeps
      | ok changed =>
          exact inductionHypothesis (keeps.applyChange accepted)

/-- The change to the current version is known exactly from the versions within reach. -/
theorem changeBetween?_isSome_iff
    {document : Document}
    {reach : Reach}
    (keeps : document.Keeps reach)
    (old new : Nat) :
    (document.changeBetween? old new).isSome = true ↔
      old = new ∨ reach.oldest document.version ≤ old ∧ old < new ∧ new ≤ document.version := by
  obtain ⟨textAt, follows⟩ := keeps.follows
  rw [Document.changeBetween?, follows.recounts.exactChangeBetween?_isSome_iff,
    keeps.baseVersion, follows.currentVersion]

end Keeps

end Document

namespace Project

/--
Follow through a call how far back the changes of a file are known, given the
limit in force before the call.
-/
def track
    (project : Project)
    (uri : Uri)
    (limit : Option Nat)
    (reach : Option Reach)
    (call : ProjectCall) :
    Option Reach :=
  if call.file? = some uri then
    Reach.after limit (project.document? uri) reach call
  else
    reach

/-- Follow it through a run of calls, and with it the limit that they leave in force. -/
def trackAll
    (project : Project)
    (uri : Uri)
    (limit : Option Nat)
    (reach : Option Reach) :
    List ProjectCall → Option Reach
  | [] => reach
  | call :: later =>
      trackAll (project.carryOut call).1 uri (call.limitAfter limit)
        (project.track uri limit reach call) later

/-- A file has a document exactly when it has a reach, and the document keeps it. -/
def Keeps (project : Project) (uri : Uri) (reach : Option Reach) : Prop :=
  Option.Rel Document.Keeps (project.document? uri) reach

namespace Keeps

/-- A direct call about a file. -/
theorem callFile
    {project : Project}
    {call : FileCall}
    {reach : Option Reach}
    (keeps : project.Keeps call.file reach) :
    (project.callFile call).1.Keeps call.file
      (Reach.afterFileCall project.settings.maxEditHistory
        (project.document? call.file) reach call) := by
  rw [Keeps] at keeps ⊢
  cases call with
  | openFile uri text mark =>
      simp only [FileCall.file, Project.callFile] at keeps ⊢
      rw [document?_openFile, if_pos rfl, opened]
      generalize project.document? uri = document at keeps ⊢
      cases keeps with
      | none =>
          exact .some ((Document.Keeps.create _ _ _ _).setByteOrderMark mark)
      | some keeps =>
          exact .some ((keeps.replaceContent text).setByteOrderMark mark)
  | edit uri start stop inserted =>
      simp only [FileCall.file, Project.callFile, Project.edit] at keeps ⊢
      rw [document?_change, if_pos rfl]
      generalize project.document? uri = document at keeps ⊢
      cases keeps with
      | none =>
          exact .none
      | some keeps =>
          exact .some (keeps.attemptEdit start stop inserted)
  | setContent uri text =>
      simp only [FileCall.file, Project.callFile, Project.setContent] at keeps ⊢
      rw [document?_change, if_pos rfl]
      generalize project.document? uri = document at keeps ⊢
      cases keeps with
      | none =>
          exact .none
      | some keeps =>
          exact .some (keeps.replaceContent text)
  | close uri =>
      simp only [FileCall.file, Project.callFile]
      rw [document?_close, if_pos rfl]
      exact .none

/-- Every call keeps the document of every file within its reach. -/
theorem carryOut
    {project : Project}
    {uri : Uri}
    {reach : Option Reach}
    (keeps : project.Keeps uri reach)
    (call : ProjectCall) :
    (project.carryOut call).1.Keeps uri
      (project.track uri project.settings.maxEditHistory reach call) := by
  rw [track]
  by_cases sameFile : call.file? = some uri
  · rw [if_pos sameFile]
    cases call with
    | host call =>
        rw [Project.carryOut, serve_eq]
        obtain rfl := Option.some.inj sameFile
        exact keeps.callFile
    | applyChanges named changes =>
        obtain rfl := Option.some.inj sameFile
        rw [Keeps] at keeps ⊢
        rw [Project.carryOut, document?_applyChanges, if_pos rfl]
        generalize project.document? named = document at keeps ⊢
        cases keeps with
        | none =>
            exact .none
        | some keeps =>
            exact .some (keeps.applyChanges changes)
    | configure settings =>
        cases sameFile
  · rw [if_neg sameFile, Keeps, document?_carryOut_of_ne project sameFile]
    exact keeps

/-- So does every run, for the limit that is in force at any moment is the one that is set. -/
theorem run
    {project : Project}
    {uri : Uri}
    {limit : Option Nat}
    {reach : Option Reach}
    (keeps : project.Keeps uri reach)
    (inForce : project.settings.maxEditHistory = limit)
    (calls : List ProjectCall) :
    (project.run calls).Keeps uri (project.trackAll uri limit reach calls) := by
  induction calls generalizing project limit reach with
  | nil =>
      exact keeps
  | cons call later inductionHypothesis =>
      subst inForce
      exact inductionHypothesis (keeps.carryOut call) (project.maxEditHistory_carryOut call)

end Keeps

/-- Only open files have a snapshot, and it is that of their document. -/
theorem snapshot_eq_ok_iff
    (project : Project)
    (uri : Uri)
    (snapshot : Snapshot) :
    project.snapshot uri = .ok snapshot ↔
      (project.document? uri).map Document.snapshot = some snapshot := by
  rw [Project.snapshot, ask]
  cases project.document? uri <;> simp

/--
Whatever calls are made on a project, and whatever settings they bring, the
changes to the current version of an open file are known from this version
itself, from the versions within reach, and from no others; and from one version
within reach to a later one the change is always known.  The reach is the limit
in force at the opening, be it the first or one that a change of settings brought,
together with the version of the last replacement.
-/
theorem changeSince?_isSome_iff_of_run
    {settings : DocumentSettings}
    {calls : List ProjectCall}
    {uri : Uri}
    {snapshot : Snapshot}
    (taken : ((Project.empty settings).run calls).snapshot uri = .ok snapshot) :
    let project := (Project.empty settings).run calls
    ∃ reach : Reach,
      (Project.empty settings).trackAll uri settings.maxEditHistory none calls = some reach ∧
        (∀ version : Nat,
          (snapshot.changeSince? (project.document? uri) version).isSome = true ↔
            version = snapshot.version ∨
              reach.oldest snapshot.version ≤ version ∧ version < snapshot.version) ∧
        snapshot.changeSince? (project.document? uri) snapshot.version = some .unchanged ∧
        ∀ old new : Nat,
          reach.oldest snapshot.version ≤ old → old ≤ new → new ≤ snapshot.version →
            ∃ document,
              project.document? uri = some document ∧
                (document.changeBetween? old new).isSome = true := by
  intro project
  rw [snapshot_eq_ok_iff] at taken
  obtain ⟨document, alive, rfl⟩ := Option.map_eq_some_iff.mp taken
  have notYetOpen : (Project.empty settings).Keeps uri none := .none
  have inForce : (Project.empty settings).settings.maxEditHistory = settings.maxEditHistory := rfl
  have inTheEnd := notYetOpen.run inForce calls
  rw [Keeps, alive] at inTheEnd
  cases tracked : (Project.empty settings).trackAll uri settings.maxEditHistory none calls with
  | none =>
      rw [tracked] at inTheEnd
      cases inTheEnd
  | some reach =>
      rw [tracked] at inTheEnd
      obtain ⟨keeps⟩ := inTheEnd
      refine ⟨reach, rfl, ?_, ?_, ?_⟩
      · intro version
        rw [alive, Snapshot.changeSince?_some rfl rfl, keeps.changeBetween?_isSome_iff]
        simp [Document.snapshot]
      · rw [Snapshot.changeSince?, if_pos rfl]
      · intro old new withinReach inOrder untilCurrent
        refine ⟨document, alive, (keeps.changeBetween?_isSome_iff old new).mpr ?_⟩
        rcases Nat.eq_or_lt_of_le inOrder with same | before
        · exact .inl same
        · exact .inr ⟨withinReach, before, untilCurrent⟩

/--
Opened once settings without a limit had given way to a limit of two, replaced as a
whole at version three, and then edited three times without a limit again and
reopened with the same text: at version six, changes are known since version four.
-/
theorem changeSince?_since_limited_opening :
    let calls : List ProjectCall :=
      [.configure ⟨some 2⟩,
        .host (.direct (.openFile .untitled ['a'] .absent)),
        .host (.direct (.edit .untitled 0 1 ['é'])),
        .configure ⟨none⟩,
        .host (.direct (.setContent .untitled ['b', 'c'])),
        .applyChanges .untitled
          [.ranged ⟨⟨0, 1⟩, ⟨0, 2⟩⟩ ['d'], .ranged ⟨⟨0, 0⟩, ⟨0, 1⟩⟩ []],
        .host (.direct (.edit .untitled 0 0 ['e'])),
        .host (.direct (.openFile .untitled ['e', 'd'] .utf8))]
    let project := (Project.empty ⟨none⟩).run calls
    let snapshot : Snapshot := ⟨.untitled, 1, 6, ['e', 'd']⟩
    project.snapshot .untitled = .ok snapshot ∧
      ∀ version : Nat,
        (snapshot.changeSince? (project.document? .untitled) version).isSome = true ↔
          version = 6 ∨ 4 ≤ version ∧ version < 6 := by
  intro calls project snapshot
  have taken : project.snapshot .untitled = .ok snapshot := by
    rw [snapshot_eq_ok_iff]
    simp only [project, calls, snapshot]
    decide
  obtain ⟨reach, tracked, known, -⟩ := changeSince?_isSome_iff_of_run taken
  have reachShape :
      (Project.empty ⟨none⟩).trackAll .untitled none none calls = some ⟨some 2, 3⟩ := by
    simp only [calls]
    decide
  rw [reachShape] at tracked
  cases tracked
  exact ⟨taken, known⟩

end Project

end VersionedText
