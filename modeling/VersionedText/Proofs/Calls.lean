import VersionedText.FileOperation
import VersionedText.Proofs.Revision

namespace VersionedText

/-!
# Calls on a project

A host opens, edits and closes files by direct calls or by file operations; an
editor sends batches of changes; settings may change in between.  Every call
names at most one file, and what it does to a project shows in the document of
that file alone.  The lemmas here say so, one for each operation, in terms of
which document a file has; nothing else about a project is needed to follow its
documents through a run.
-/

/-- A direct call about one file. -/
inductive FileCall where
  | openFile (uri : Uri) (text : Text) (mark : ByteOrderMark)
  | edit (uri : Uri) (start stop : Nat) (inserted : Text)
  | setContent (uri : Uri) (text : Text)
  | close (uri : Uri)
  deriving DecidableEq

/-- A call of a host: a direct one, or a file operation to be dispatched. -/
inductive HostCall where
  | direct (call : FileCall)
  | dispatch (operation : FileOperation)
  deriving DecidableEq

/-- Any call that may change a project. -/
inductive ProjectCall where
  | host (call : HostCall)
  | applyChanges (uri : Uri) (changes : List ContentChange)
  | configure (settings : DocumentSettings)
  deriving DecidableEq

/-- The direct call that a host's call comes down to. -/
def HostCall.fileCall : HostCall → FileCall
  | .direct call => call
  | .dispatch (.opened uri text mark) => .openFile uri text.toList mark
  | .dispatch (.edited uri start stop text) => .edit uri start stop text.toList
  | .dispatch (.contentSet uri text) => .setContent uri text.toList
  | .dispatch (.closed uri) => .close uri

/-- The file that a direct call is about. -/
def FileCall.file : FileCall → Uri
  | .openFile uri .. => uri
  | .edit uri .. => uri
  | .setContent uri _ => uri
  | .close uri => uri

/-- The file that a call is about, if it is about one. -/
def ProjectCall.file? : ProjectCall → Option Uri
  | .host call => some call.fileCall.file
  | .applyChanges uri _ => some uri
  | .configure _ => none

/-- The limit in force after a call, given the one before; only settings bring another. -/
def ProjectCall.limitAfter (limit : Option Nat) : ProjectCall → Option Nat
  | .configure settings => settings.maxEditHistory
  | _ => limit

namespace Project

/-- Carry out a direct call; the answer is the version after it, or none after a close. -/
def callFile (project : Project) : FileCall → Project × Except Refusal (Option Nat)
  | .openFile uri text mark =>
      let (changed, version) := project.openFile uri text mark
      (changed, .ok (some version))
  | .edit uri start stop inserted =>
      let (changed, outcome) := project.edit uri start stop inserted
      (changed, outcome.map some)
  | .setContent uri text =>
      let (changed, outcome) := project.setContent uri text
      (changed, outcome.map some)
  | .close uri =>
      let (changed, outcome) := project.close uri
      (changed, outcome.map fun _ => none)

/-- Serve a host. -/
def serve (project : Project) : HostCall → Project × Except Refusal (Option Nat)
  | .direct call => project.callFile call
  | .dispatch operation => project.dispatch operation

/-- Carry out any call; a change of settings has no version to answer. -/
def carryOut (project : Project) : ProjectCall → Project × Except Refusal (Option Nat)
  | .host call => project.serve call
  | .applyChanges uri changes =>
      let (changed, outcome) := project.applyChanges uri changes
      (changed, outcome.map some)
  | .configure settings => (project.configure settings, .ok none)

/-- The project after a run of calls. -/
def run (project : Project) (calls : List ProjectCall) : Project :=
  calls.foldl (fun current call => (current.carryOut call).1) project

/-- Dispatching an operation is making the direct call. -/
theorem serve_eq
    (project : Project)
    (call : HostCall) :
    project.serve call = project.callFile call.fileCall := by
  rcases call with call | (_ | _ | _ | _) <;> rfl

/-- Which document each file has once the entry of one file is replaced. -/
theorem document?_setEntry
    (project : Project)
    (uri asked : Uri)
    (entry : FileEntry) :
    (project.setEntry uri entry).document? asked =
      if asked = uri then entry.document else project.document? asked := by
  by_cases same : asked = uri
  · subst same
    simp [document?]
  · simp [document?, same, entry_setEntry_of_ne project same]

theorem document?_setDocument
    (project : Project)
    (uri asked : Uri)
    (document : Document) :
    (project.setDocument uri document).document? asked =
      if asked = uri then some document else project.document? asked :=
  document?_setEntry project uri asked _

/-- The document that an opening leads to. -/
def opened (project : Project) (uri : Uri) (text : Text) (mark : ByteOrderMark) : Document :=
  match project.document? uri with
  | some document => (document.replaceContent text).setByteOrderMark mark
  | none =>
      (Document.create uri ((project.entry uri).openings + 1) text
        project.settings.maxEditHistory).setByteOrderMark mark

/-- Opening a file puts the document in place and answers its version. -/
theorem openFile_eq
    (project : Project)
    (uri : Uri)
    (text : Text)
    (mark : ByteOrderMark) :
    project.openFile uri text mark =
      (project.setEntry uri
          ⟨(project.opened uri text mark).opening, some (project.opened uri text mark)⟩,
        (project.opened uri text mark).version) := by
  simp only [openFile, opened, document?]
  cases (project.entry uri).document <;> rfl

theorem document?_openFile
    (project : Project)
    (uri asked : Uri)
    (text : Text)
    (mark : ByteOrderMark) :
    (project.openFile uri text mark).1.document? asked =
      if asked = uri then some (project.opened uri text mark) else project.document? asked := by
  rw [openFile_eq, document?_setEntry]

/-- A change of a document leaves all others alone; a refusal leaves this one alone too. -/
theorem document?_change
    (project : Project)
    (uri asked : Uri)
    (alter : Document → Except Refusal Document) :
    (project.change uri alter).1.document? asked =
      if asked = uri then
        (project.document? uri).map fun document => document.attempt alter
      else
        project.document? asked := by
  cases alive : project.document? uri with
  | none =>
      have refused : project.ask uri alter = .error (.unknownFile uri) := by
        simp only [ask, alive]
      by_cases same : asked = uri
      · simp [change, refused, same, alive]
      · simp [change, refused, same]
  | some document =>
      cases altered : alter document with
      | error refusal =>
          have refused : project.ask uri alter = .error refusal := by
            simp only [ask, alive, altered]
          by_cases same : asked = uri
          · simp [change, refused, same, alive, Document.attempt, altered]
          · simp [change, refused, same]
      | ok next =>
          have accepted : project.ask uri alter = .ok next := by
            simp only [ask, alive, altered]
          simp [change, accepted, document?_setDocument, Document.attempt, altered]

/-- A change that is refused leaves the whole project as it was. -/
theorem change_of_refused
    {project : Project}
    {uri : Uri}
    {alter : Document → Except Refusal Document}
    {refusal : Refusal}
    (refused : (project.change uri alter).2 = .error refusal) :
    (project.change uri alter).1 = project := by
  rw [change] at refused ⊢
  cases answer : project.ask uri alter with
  | error reason => rfl
  | ok altered =>
      rw [answer] at refused
      cases refused

/-- A batch of changes leaves all other documents alone. -/
theorem document?_applyChanges
    (project : Project)
    (uri asked : Uri)
    (changes : List ContentChange) :
    (project.applyChanges uri changes).1.document? asked =
      if asked = uri then
        (project.document? uri).map fun document => (document.applyChanges changes).1
      else
        project.document? asked := by
  rw [applyChanges]
  cases alive : project.document? uri with
  | none =>
      by_cases same : asked = uri <;> simp [same, alive]
  | some document =>
      simp [document?_setDocument]

theorem document?_close
    (project : Project)
    (uri asked : Uri) :
    (project.close uri).1.document? asked =
      if asked = uri then none else project.document? asked := by
  rw [close]
  cases alive : project.document? uri with
  | none =>
      by_cases same : asked = uri <;> simp [same, alive]
  | some document =>
      simp [document?_setEntry]

/-- A direct call leaves the documents of all other files alone. -/
theorem document?_callFile_of_ne
    (project : Project)
    {call : FileCall}
    {uri : Uri}
    (different : uri ≠ call.file) :
    (project.callFile call).1.document? uri = project.document? uri := by
  cases call with
  | openFile named text mark =>
      exact (document?_openFile project named uri text mark).trans (if_neg different)
  | edit named start stop inserted =>
      exact (document?_change project named uri _).trans (if_neg different)
  | setContent named text =>
      exact (document?_change project named uri _).trans (if_neg different)
  | close named =>
      exact (document?_close project named uri).trans (if_neg different)

/-- No call touches the document of a file that it is not about. -/
theorem document?_carryOut_of_ne
    (project : Project)
    {call : ProjectCall}
    {uri : Uri}
    (different : call.file? ≠ some uri) :
    (project.carryOut call).1.document? uri = project.document? uri := by
  cases call with
  | host call =>
      simp only [carryOut, serve_eq]
      apply document?_callFile_of_ne
      intro same
      exact different (congrArg some same.symm)
  | applyChanges named changes =>
      apply (document?_applyChanges project named uri changes).trans
      apply if_neg
      intro same
      exact different (congrArg some same.symm)
  | configure settings =>
      rfl

/-- Only a change of settings changes the settings. -/
theorem settings_carryOut
    (project : Project)
    (call : ProjectCall) :
    (project.carryOut call).1.settings =
      match call with
      | .configure settings => settings
      | _ => project.settings := by
  have change (uri : Uri) (alter : Document → Except Refusal Document) :
      (project.change uri alter).1.settings = project.settings := by
    rw [Project.change]
    cases project.ask uri alter <;> rfl
  cases call with
  | host call =>
      rw [carryOut, serve_eq]
      cases call.fileCall with
      | openFile uri text mark => rfl
      | edit uri start stop inserted => exact change uri _
      | setContent uri text => exact change uri _
      | close uri =>
          simp only [callFile, close]
          cases project.document? uri <;> rfl
  | applyChanges uri changes =>
      simp only [carryOut, applyChanges]
      cases project.document? uri <;> rfl
  | configure settings =>
      rfl

/-- The limit that a call leaves to the documents created after it. -/
theorem maxEditHistory_carryOut
    (project : Project)
    (call : ProjectCall) :
    (project.carryOut call).1.settings.maxEditHistory =
      call.limitAfter project.settings.maxEditHistory := by
  rw [settings_carryOut]
  cases call <;> rfl

end Project

end VersionedText
