import VersionedText.Snapshot

namespace VersionedText

/-!
# Projects

A project owns the open documents, each under the URI of its file.  A file keeps
a count of its openings after it is closed, so that a snapshot of an earlier
opening is never taken for one of the present document.  The files stand in the
byte order of their URIs.

Every operation names one file, and only the entry of that file can change.
-/

/-- What projects are told about the documents they open. -/
structure DocumentSettings where
  /-- Most edits that a history retains; all of them when absent. -/
  maxEditHistory : Option Nat
  deriving Repr, DecidableEq, Inhabited

namespace DocumentSettings

/-- Histories without a limit. -/
def default : DocumentSettings :=
  ⟨none⟩

end DocumentSettings

/-- What a project knows of one file. -/
structure FileEntry where
  /-- How often the file has been opened so far. -/
  openings : Nat
  /-- Its document, while it is open. -/
  document : Option Document
  deriving DecidableEq

namespace FileEntry

/-- A file that has never been opened. -/
def unopened : FileEntry :=
  ⟨0, none⟩

end FileEntry

/-- The files of a project and the settings for documents yet to be opened. -/
structure Project where
  files : List (Uri × FileEntry)
  settings : DocumentSettings
  deriving DecidableEq

namespace Project

/-- A project without files. -/
def empty (settings : DocumentSettings) : Project :=
  ⟨[], settings⟩

/-- What the project knows of a file. -/
def entry (project : Project) (uri : Uri) : FileEntry :=
  (project.files.lookup uri).getD .unopened

/-- The document of a file, while it is open. -/
def document? (project : Project) (uri : Uri) : Option Document :=
  (project.entry uri).document

/-- Put the entry of a file in its place among the others. -/
def insertEntry (uri : Uri) (entry : FileEntry) :
    List (Uri × FileEntry) → List (Uri × FileEntry)
  | [] => [(uri, entry)]
  | (other, known) :: rest =>
      if other = uri then
        (uri, entry) :: rest
      else if uri.precedes other then
        (uri, entry) :: (other, known) :: rest
      else
        (other, known) :: insertEntry uri entry rest

/-- The entry put in place is the one that its file leads to. -/
theorem lookup_insertEntry_self
    (uri : Uri)
    (entry : FileEntry)
    (files : List (Uri × FileEntry)) :
    (insertEntry uri entry files).lookup uri = some entry := by
  induction files with
  | nil =>
      simp [insertEntry]
  | cons file rest inductionHypothesis =>
      obtain ⟨other, known⟩ := file
      by_cases same : other = uri
      · simp [insertEntry, same]
      · have different : (uri == other) = false := by
          simpa using fun equal => same equal.symm
        by_cases first : uri.precedes other
        · simp [insertEntry, same, first]
        · simp [insertEntry, same, first, List.lookup_cons, different,
            inductionHypothesis]

/-- The entries of all other files stay. -/
theorem lookup_insertEntry_of_ne
    {uri asked : Uri}
    (different : asked ≠ uri)
    (entry : FileEntry)
    (files : List (Uri × FileEntry)) :
    (insertEntry uri entry files).lookup asked = files.lookup asked := by
  have unequal : (asked == uri) = false := by
    simpa using different
  induction files with
  | nil =>
      simp [insertEntry, List.lookup_cons, unequal]
  | cons file rest inductionHypothesis =>
      obtain ⟨other, known⟩ := file
      by_cases same : other = uri
      · simp [insertEntry, same, List.lookup_cons, unequal]
      · by_cases first : uri.precedes other
        · simp [insertEntry, same, first, List.lookup_cons, unequal]
        · simp [insertEntry, same, first, List.lookup_cons, inductionHypothesis]

/-- Replace what the project knows of a file. -/
def setEntry (project : Project) (uri : Uri) (entry : FileEntry) : Project :=
  { project with files := insertEntry uri entry project.files }

/-- Replace the document of an open file. -/
def setDocument (project : Project) (uri : Uri) (document : Document) : Project :=
  project.setEntry uri { project.entry uri with document := some document }

/-- A replaced entry is what the project knows of the file. -/
@[simp]
theorem entry_setEntry_self
    (project : Project)
    (uri : Uri)
    (entry : FileEntry) :
    (project.setEntry uri entry).entry uri = entry := by
  simp [Project.entry, setEntry, lookup_insertEntry_self]

/-- What the project knows of other files stays. -/
theorem entry_setEntry_of_ne
    (project : Project)
    {uri asked : Uri}
    (different : asked ≠ uri)
    (entry : FileEntry) :
    (project.setEntry uri entry).entry asked = project.entry asked := by
  simp [Project.entry, setEntry, lookup_insertEntry_of_ne different]

/-- Settings for documents opened from now on. -/
def configure (project : Project) (settings : DocumentSettings) : Project :=
  { project with settings := settings }

/--
Open a file.  A file that is already open gets the new text in place and keeps
its versions; any other starts a new document under the settings in force.
-/
def openFile
    (project : Project)
    (uri : Uri)
    (text : Text)
    (mark : ByteOrderMark) :
    Project × Nat :=
  let entry := project.entry uri
  let opened :=
    match entry.document with
    | some document => document.replaceContent text
    | none => Document.create uri (entry.openings + 1) text project.settings.maxEditHistory
  let marked := opened.setByteOrderMark mark
  (project.setEntry uri ⟨marked.opening, some marked⟩, marked.version)

/-- Put a question to the document of an open file. -/
def ask
    (project : Project)
    (uri : Uri)
    (question : Document → Except Refusal α) :
    Except Refusal α :=
  match project.document? uri with
  | some document => question document
  | none => .error (.unknownFile uri)

/-- Have the document of an open file changed; a refusal leaves it as it was. -/
def change
    (project : Project)
    (uri : Uri)
    (alter : Document → Except Refusal Document) :
    Project × Except Refusal Nat :=
  match project.ask uri alter with
  | .ok document => (project.setDocument uri document, .ok document.version)
  | .error refusal => (project, .error refusal)

/-- Replace the text between two byte offsets of an open file. -/
def edit
    (project : Project)
    (uri : Uri)
    (start stop : Nat)
    (inserted : Text) :
    Project × Except Refusal Nat :=
  project.change uri fun document => document.edit start stop inserted

/-- Replace the whole text of an open file. -/
def setContent
    (project : Project)
    (uri : Uri)
    (text : Text) :
    Project × Except Refusal Nat :=
  project.change uri fun document => .ok (document.replaceContent text)

/-- Carry out a batch of changes from an editor; what precedes a refusal stays. -/
def applyChanges
    (project : Project)
    (uri : Uri)
    (changes : List ContentChange) :
    Project × Except Refusal Nat :=
  match project.document? uri with
  | none => (project, .error (.unknownFile uri))
  | some document =>
      let (changed, outcome) := document.applyChanges changes
      (project.setDocument uri changed, outcome.map fun _ => changed.version)

/-- Close a file. -/
def close (project : Project) (uri : Uri) : Project × Except Refusal Unit :=
  match project.document? uri with
  | some _ => (project.setEntry uri { project.entry uri with document := none }, .ok ())
  | none => (project, .error (.unknownFile uri))

/-- Capture the document of an open file. -/
def snapshot (project : Project) (uri : Uri) : Except Refusal Snapshot :=
  project.ask uri fun document => .ok document.snapshot

/-- The version of an open file. -/
def version (project : Project) (uri : Uri) : Except Refusal Nat :=
  project.ask uri fun document => .ok document.version

/-- Whether a file is open. -/
def isOpen (project : Project) (uri : Uri) : Bool :=
  (project.document? uri).isSome

/-- The open documents, in the byte order of their URIs. -/
def openDocuments (project : Project) : List Document :=
  project.files.filterMap fun file => file.2.document

/-- The open files, in byte order. -/
def openFiles (project : Project) : List Uri :=
  project.files.filterMap fun file => file.2.document.map fun _ => file.1

end Project

end VersionedText
