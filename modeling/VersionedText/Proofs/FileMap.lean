import Mathlib.Logic.Function.Basic
import VersionedText.Proofs.OpenFiles

namespace VersionedText

/-!
# Projects as maps

To a host that opens, edits, replaces and closes files, a project is a map from
URIs to texts, versions and marks, and nothing else.  The map is given here by
rules of its own, which know of no line tables, histories or entries of closed
files.  A project and the map answer every run of calls alike, and after it they
read alike.
-/

/-- What a host can tell of an open file. -/
structure FileState where
  text : Text
  version : Nat
  mark : ByteOrderMark
  deriving DecidableEq

/-- The open files by their URIs. -/
abbrev FileMap := Uri → Option FileState

namespace FileState

/-- A replacement counts as a new version when the text differs. -/
def replace (state : FileState) (text : Text) : FileState :=
  if text = state.text then
    state
  else
    { state with text := text, version := state.version + 1 }

/-- An edit that fits the text is a new version, also when the text comes out the same. -/
def edit
    (state : FileState)
    (start stop : Nat)
    (inserted : Text) :
    Except Refusal FileState :=
  if start ≤ stop ∧ stop ≤ state.text.size then
    match state.text.upTo? start, state.text.onward? stop with
    | none, _ => .error (.notCharacterBoundary start)
    | some _, none => .error (.notCharacterBoundary stop)
    | some head, some tail =>
        .ok { state with text := head ++ inserted ++ tail, version := state.version + 1 }
  else
    .error (.rangeOutOfRange start stop state.text.size)

/-- What is wrong with a span is found in the order of the checks on it. -/
theorem edit_eq_checkRange
    (state : FileState)
    (start stop : Nat)
    (inserted : Text) :
    state.edit start stop inserted =
      (state.text.checkRange start stop).map fun _ =>
        { state with
          text := state.text.splice start stop inserted
          version := state.version + 1 } := by
  rw [edit, Text.checkRange]
  by_cases inRange : start ≤ stop ∧ stop ≤ state.text.size
  · have notOutside : ¬(stop < start ∨ state.text.size < stop) := by
      simpa only [not_or, Nat.not_lt] using inRange
    rw [if_pos inRange, if_neg notOutside, Text.upTo?, Text.onward?]
    cases startBoundary : state.text.isBoundary start with
    | false => rfl
    | true =>
        cases stopBoundary : state.text.isBoundary stop with
        | false => rfl
        | true => rfl
  · have outside : stop < start ∨ state.text.size < stop := by
      simpa only [not_and_or, Nat.not_le] using inRange
    rw [if_neg inRange, if_pos outside]
    rfl

end FileState

namespace FileMap

/-- No file is open. -/
def empty : FileMap :=
  fun _ => none

/-- The state of a file that has to be open. -/
def look (files : FileMap) (uri : Uri) : Except Refusal FileState :=
  match files uri with
  | some state => .ok state
  | none => .error (.unknownFile uri)

/-- The state that an opening leads to. -/
def opened (files : FileMap) (uri : Uri) (text : Text) (mark : ByteOrderMark) : FileState :=
  match files uri with
  | some state => { state.replace text with mark := mark }
  | none => ⟨text, 1, mark⟩

/-- Have the state of an open file changed; a refusal leaves all files alone. -/
def change
    (files : FileMap)
    (uri : Uri)
    (alter : FileState → Except Refusal FileState) :
    FileMap × Except Refusal (Option Nat) :=
  match files.look uri with
  | .error refusal => (files, .error refusal)
  | .ok state =>
      match alter state with
      | .error refusal => (files, .error refusal)
      | .ok altered => (Function.update files uri (some altered), .ok (some altered.version))

/-- Carry out a direct call; the answer is the version after it, or none after a close. -/
def callFile (files : FileMap) : FileCall → FileMap × Except Refusal (Option Nat)
  | .openFile uri text mark =>
      (Function.update files uri (some (files.opened uri text mark)),
        .ok (some (files.opened uri text mark).version))
  | .edit uri start stop inserted =>
      files.change uri fun state => state.edit start stop inserted
  | .setContent uri text =>
      files.change uri fun state => .ok (state.replace text)
  | .close uri =>
      match files.look uri with
      | .error refusal => (files, .error refusal)
      | .ok _ => (Function.update files uri none, .ok none)

/-- The open files after a run of calls, and the answers to them in order. -/
def serveAll (files : FileMap) :
    List HostCall → FileMap × List (Except Refusal (Option Nat))
  | [] => (files, [])
  | call :: later =>
      let served := files.callFile call.fileCall
      let rest := serveAll served.1 later
      (rest.1, served.2 :: rest.2)

end FileMap

namespace Document

/-- What a host can tell of a document. -/
def state (document : Document) : FileState :=
  ⟨document.content, document.version, document.byteOrderMark⟩

theorem text_state (document : Document) : document.state.text = document.content :=
  rfl

theorem state_setByteOrderMark
    (document : Document)
    (mark : ByteOrderMark) :
    (document.setByteOrderMark mark).state = { document.state with mark := mark } :=
  rfl

/-- A wholesale replacement is a replacement of the state. -/
theorem state_replaceContent
    (document : Document)
    (text : Text) :
    (document.replaceContent text).state = document.state.replace text := by
  by_cases same : document.content = text
  · simp [replaceContent, FileState.replace, state, same]
  · have different : ¬text = document.content := fun equal => same equal.symm
    simp [replaceContent, FileState.replace, state, same, different]

/-- An edit is accepted or refused as the state has it, and with the same result. -/
theorem state_edit
    (document : Document)
    (start stop : Nat)
    (inserted : Text) :
    (document.edit start stop inserted).map state =
      document.state.edit start stop inserted := by
  rw [edit, FileState.edit_eq_checkRange, text_state]
  cases document.content.checkRange start stop <;> rfl

theorem uri_edit
    {document edited : Document}
    {start stop : Nat}
    {inserted : Text}
    (accepted : document.edit start stop inserted = .ok edited) :
    edited.uri = document.uri := by
  obtain ⟨-, rfl⟩ := (edit_eq_ok_iff _ _ _ _ _).mp accepted
  rfl

end Document

namespace Project

/-- The project after a run of a host's calls, and the answers to them in order. -/
def serveAll (project : Project) :
    List HostCall → Project × List (Except Refusal (Option Nat))
  | [] => (project, [])
  | call :: later =>
      let served := project.serve call
      let rest := serveAll served.1 later
      (rest.1, served.2 :: rest.2)

/-- The documents of a project are in the states that a map tells, each under its own URI. -/
structure Shows (project : Project) (files : FileMap) : Prop where
  sorted : Sorted project.files
  states : ∀ uri : Uri, (project.document? uri).map Document.state = files uri
  owned :
    ∀ (uri : Uri) (document : Document),
      project.document? uri = some document → document.uri = uri

/-- All that a host can read off a project is what a map tells. -/
structure ReadsAs (project : Project) (files : FileMap) : Prop where
  states : ∀ uri : Uri, (project.document? uri).map Document.state = files uri
  isOpen : ∀ uri : Uri, project.isOpen uri = (files uri).isSome
  version : ∀ uri : Uri, project.version uri = (files.look uri).map FileState.version
  snapshot :
    ∀ uri : Uri,
      ((project.snapshot uri).map fun taken => (taken.uri, taken.version, taken.text)) =
        (files.look uri).map fun state => (uri, state.version, state.text)
  ascending : project.openFiles.Pairwise fun first second => first.precedes second = true
  listed : ∀ uri : Uri, uri ∈ project.openFiles ↔ (files uri).isSome = true

namespace Shows

/-- A project without files shows the empty map. -/
theorem empty (settings : DocumentSettings) : (Project.empty settings).Shows .empty where
  sorted := List.Pairwise.nil
  states := fun _ => rfl
  owned := by
    intro uri document alive
    cases alive

/-- Replacing the entry of a file shows as replacing its state. -/
theorem setEntry
    {project : Project}
    {files : FileMap}
    (showsFiles : project.Shows files)
    {uri : Uri}
    {entry : FileEntry}
    (owned : ∀ document : Document, entry.document = some document → document.uri = uri) :
    (project.setEntry uri entry).Shows
      (Function.update files uri (entry.document.map Document.state)) where
  sorted := showsFiles.sorted.insertEntry uri entry
  states := by
    intro asked
    rw [document?_setEntry, Function.update_apply]
    split
    · rfl
    · exact showsFiles.states asked
  owned := by
    intro asked document alive
    rw [document?_setEntry] at alive
    split at alive
    · rename_i same
      rw [same]
      exact owned document alive
    · exact showsFiles.owned asked document alive

theorem look_of_document?
    {project : Project}
    {files : FileMap}
    (showsFiles : project.Shows files)
    {uri : Uri}
    {document : Document}
    (alive : project.document? uri = some document) :
    files.look uri = .ok document.state := by
  have state := showsFiles.states uri
  rw [alive] at state
  rw [FileMap.look, ← state]
  rfl

theorem look_of_closed
    {project : Project}
    {files : FileMap}
    (showsFiles : project.Shows files)
    {uri : Uri}
    (closed : project.document? uri = none) :
    files.look uri = .error (.unknownFile uri) := by
  have state := showsFiles.states uri
  rw [closed] at state
  rw [FileMap.look, ← state]
  rfl

/-- A change of a document shows as the change of its state. -/
theorem change
    {project : Project}
    {files : FileMap}
    (showsFiles : project.Shows files)
    (uri : Uri)
    {alter : Document → Except Refusal Document}
    {alterState : FileState → Except Refusal FileState}
    (agree : ∀ document : Document, (alter document).map Document.state = alterState document.state)
    (keepsUri :
      ∀ document altered : Document, alter document = .ok altered → altered.uri = document.uri) :
    (project.change uri alter).2.map some = (files.change uri alterState).2 ∧
      (project.change uri alter).1.Shows (files.change uri alterState).1 := by
  cases alive : project.document? uri with
  | none =>
      rw [Project.change, ask, FileMap.change, alive, showsFiles.look_of_closed alive]
      exact ⟨rfl, showsFiles⟩
  | some document =>
      have sameResult := agree document
      rw [Project.change, ask, FileMap.change, alive, showsFiles.look_of_document? alive]
      dsimp only
      rw [← sameResult]
      cases altered : alter document with
      | error refusal =>
          exact ⟨rfl, showsFiles⟩
      | ok next =>
          refine ⟨rfl, showsFiles.setEntry ?_⟩
          rintro _ ⟨⟩
          rw [keepsUri document next altered, showsFiles.owned uri document alive]

theorem state_opened
    {project : Project}
    {files : FileMap}
    (showsFiles : project.Shows files)
    (uri : Uri)
    (text : Text)
    (mark : ByteOrderMark) :
    (project.opened uri text mark).state = files.opened uri text mark := by
  have state := showsFiles.states uri
  rw [FileMap.opened, ← state, opened]
  cases project.document? uri with
  | none => rfl
  | some document =>
      rw [Document.state_setByteOrderMark, Document.state_replaceContent]
      rfl

theorem uri_opened
    {project : Project}
    {files : FileMap}
    (showsFiles : project.Shows files)
    (uri : Uri)
    (text : Text)
    (mark : ByteOrderMark) :
    (project.opened uri text mark).uri = uri := by
  rw [opened]
  cases alive : project.document? uri with
  | none => rfl
  | some document =>
      have sameUri := (document.source_revise (.replacement text)).1
      exact sameUri.trans (showsFiles.owned uri document alive)

/-- A project answers a direct call as the map does, and goes on showing it. -/
theorem callFile
    {project : Project}
    {files : FileMap}
    (showsFiles : project.Shows files)
    (call : FileCall) :
    (project.callFile call).2 = (files.callFile call).2 ∧
      (project.callFile call).1.Shows (files.callFile call).1 := by
  cases call with
  | openFile uri text mark =>
      have state := showsFiles.state_opened uri text mark
      rw [Project.callFile, openFile_eq, FileMap.callFile, ← state]
      refine ⟨rfl, showsFiles.setEntry ?_⟩
      rintro _ ⟨⟩
      exact showsFiles.uri_opened uri text mark
  | edit uri start stop inserted =>
      apply showsFiles.change uri
      · intro document
        exact document.state_edit start stop inserted
      · intro document altered accepted
        exact Document.uri_edit accepted
  | setContent uri text =>
      apply showsFiles.change uri
      · intro document
        exact congrArg Except.ok (document.state_replaceContent text)
      · rintro document _ ⟨⟩
        exact (document.source_revise (.replacement text)).1
  | close uri =>
      rw [Project.callFile, Project.close, FileMap.callFile]
      cases alive : project.document? uri with
      | none =>
          rw [showsFiles.look_of_closed alive]
          exact ⟨rfl, showsFiles⟩
      | some document =>
          rw [showsFiles.look_of_document? alive]
          refine ⟨rfl, showsFiles.setEntry ?_⟩
          intro closed stillThere
          cases stillThere

/-- A project answers a run of calls as the map does, and shows it in the end. -/
theorem serveAll
    {project : Project}
    {files : FileMap}
    (showsFiles : project.Shows files)
    (calls : List HostCall) :
    (project.serveAll calls).2 = (files.serveAll calls).2 ∧
      (project.serveAll calls).1.Shows (files.serveAll calls).1 := by
  induction calls generalizing project files with
  | nil =>
      exact ⟨rfl, showsFiles⟩
  | cons call later inductionHypothesis =>
      obtain ⟨answer, showsNext⟩ := showsFiles.callFile call.fileCall
      rw [← serve_eq] at answer showsNext
      obtain ⟨answers, showsLast⟩ := inductionHypothesis showsNext
      exact ⟨List.cons_eq_cons.mpr ⟨answer, answers⟩, showsLast⟩

/-- What a host asks of a project, the map it shows can answer. -/
theorem readsAs
    {project : Project}
    {files : FileMap}
    (showsFiles : project.Shows files) :
    project.ReadsAs files where
  states := showsFiles.states
  isOpen := by
    intro uri
    rw [Project.isOpen, ← showsFiles.states uri, Option.isSome_map]
  version := by
    intro uri
    rw [Project.version, ask]
    cases alive : project.document? uri with
    | none =>
        rw [showsFiles.look_of_closed alive]
        rfl
    | some document =>
        rw [showsFiles.look_of_document? alive]
        rfl
  snapshot := by
    intro uri
    rw [Project.snapshot, ask]
    cases alive : project.document? uri with
    | none =>
        rw [showsFiles.look_of_closed alive]
        rfl
    | some document =>
        rw [showsFiles.look_of_document? alive, ← showsFiles.owned uri document alive]
        rfl
  ascending := openFiles_pairwise showsFiles.sorted
  listed := by
    intro uri
    rw [mem_openFiles_iff showsFiles.sorted, ← showsFiles.states uri, Option.isSome_map]

end Shows

/-- A refused call leaves the project exactly as it was. -/
theorem serve_of_refused
    {project : Project}
    {call : HostCall}
    {refusal : Refusal}
    (refused : (project.serve call).2 = .error refusal) :
    (project.serve call).1 = project := by
  have changing {uri : Uri} {alter : Document → Except Refusal Document}
      (refused : (project.change uri alter).2.map some = .error refusal) :
      (project.change uri alter).1 = project := by
    cases answer : (project.change uri alter).2 with
    | error reason => exact change_of_refused answer
    | ok version =>
        rw [answer] at refused
        cases refused
  rw [serve_eq] at refused ⊢
  cases fileCall : call.fileCall with
  | openFile uri text mark =>
      rw [fileCall] at refused
      cases refused
  | edit uri start stop inserted =>
      rw [fileCall] at refused
      exact changing refused
  | setContent uri text =>
      rw [fileCall] at refused
      exact changing refused
  | close uri =>
      rw [fileCall] at refused
      simp only [callFile, close] at refused ⊢
      cases alive : project.document? uri with
      | none => rfl
      | some document =>
          rw [alive] at refused
          cases refused

/--
Whatever calls a host makes, directly or by file operations, a project that was
empty at first answers each of them as the map does, refusals included, and in
the end reads as the map does.  A call that is refused then changes nothing in
the project, not even what a host cannot see.
-/
theorem serveAll_eq_fileMap
    (settings : DocumentSettings)
    (calls : List HostCall) :
    let served := (Project.empty settings).serveAll calls
    let expected := FileMap.empty.serveAll calls
    served.2 = expected.2 ∧
      served.1.ReadsAs expected.1 ∧
      ∀ (call : HostCall) (refusal : Refusal),
        (served.1.serve call).2 = .error refusal → (served.1.serve call).1 = served.1 := by
  intro served expected
  obtain ⟨answers, showsLast⟩ := (Shows.empty settings).serveAll calls
  refine ⟨answers, showsLast.readsAs, ?_⟩
  intro call refusal refused
  exact serve_of_refused refused

end Project

end VersionedText
