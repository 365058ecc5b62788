import VersionedText.Proofs.Bookkeeping
import VersionedText.Proofs.FileEntries
import VersionedText.Proofs.OpenFiles

namespace VersionedText

/-!
# The upkeep of a project

Whatever calls are made on a project, two things stay as they are in a project
without files: the entries stand in order, and every open document has its table
and its limit kept.  Only the entry of one file changes in a call, and all that
can happen to a document is to be created, to be revised and to be marked.
-/

namespace Document

/-- A mark is not in the books. -/
theorem Booked.setByteOrderMark
    {document : Document}
    {limit : Option Nat}
    (booked : document.Booked limit)
    (mark : ByteOrderMark) :
    (document.setByteOrderMark mark).Booked limit where
  lines := booked.lines
  sameLimit := booked.sameLimit
  withinLimit := booked.withinLimit
  fromFirst := booked.fromFirst

end Document

namespace FileEntry

/-- The document of a file, if it is open, has its table and its limit kept. -/
def Booked (entry : FileEntry) : Prop :=
  ∀ document, entry.document = some document → ∃ limit, document.Booked limit

namespace Booked

variable {entry : FileEntry}

/-- A run of revisions keeps the books of the document, if there is one. -/
theorem alter
    (booked : entry.Booked)
    {next : Document → Document}
    (revised : ∀ document, ∃ revisions, Document.reviseAll document revisions = next document) :
    (entry.alter next).Booked := by
  intro document alive
  obtain ⟨earlier, earlierAlive, rfl⟩ := Option.map_eq_some_iff.mp alive
  obtain ⟨limit, earlierBooked⟩ := booked earlier earlierAlive
  obtain ⟨revisions, shape⟩ := revised earlier
  rw [← shape]
  exact ⟨limit, earlierBooked.reviseAll revisions⟩

theorem openFile
    (booked : entry.Booked)
    (limit : Option Nat)
    (uri : Uri)
    (text : Text)
    (mark : ByteOrderMark) :
    (entry.callFile limit uri (.openFile uri text mark)).Booked := by
  rintro document ⟨⟩
  rw [FileEntry.opened]
  cases alive : entry.document with
  | none =>
      exact ⟨limit, (Document.Booked.create _ _ _ _).setByteOrderMark mark⟩
  | some earlier =>
      obtain ⟨sameLimit, earlierBooked⟩ := booked earlier alive
      exact ⟨sameLimit, (earlierBooked.replaceContent text).setByteOrderMark mark⟩

/-- Whatever a call makes of an entry, the books of its document are kept. -/
theorem carryOut
    (booked : entry.Booked)
    (limit : Option Nat)
    (uri : Uri)
    (call : ProjectCall) :
    (entry.carryOut limit uri call).Booked := by
  cases call with
  | host call =>
      rw [FileEntry.carryOut]
      cases call.fileCall with
      | openFile _ text mark =>
          exact booked.openFile limit uri text mark
      | edit _ start stop inserted =>
          exact booked.alter fun document => ⟨[.edit start stop inserted], rfl⟩
      | setContent _ text =>
          exact booked.alter fun document => ⟨[.replacement text], rfl⟩
      | close _ =>
          rintro document ⟨⟩
  | applyChanges _ changes =>
      exact booked.alter fun document => document.exists_reviseAll_of_applyChanges changes
  | configure settings =>
      exact booked

end Booked

end FileEntry

namespace Project

/-- The entries stand in order, and every document has its table and its limit kept. -/
structure Maintained (project : Project) : Prop where
  sorted : Sorted project.files
  booked : ∀ uri : Uri, (project.entry uri).Booked

/-- A change replaces the entry of its file or leaves the project as it is. -/
theorem sorted_change
    {project : Project}
    (sorted : Sorted project.files)
    (uri : Uri)
    (alter : Document → Except Refusal Document) :
    Sorted (project.change uri alter).1.files := by
  rw [change]
  cases project.ask uri alter with
  | error refusal => exact sorted
  | ok document => exact sorted.insertEntry uri _

theorem sorted_callFile
    {project : Project}
    (sorted : Sorted project.files)
    (call : FileCall) :
    Sorted (project.callFile call).1.files := by
  cases call with
  | openFile uri text mark =>
      exact sorted.insertEntry uri _
  | edit uri start stop inserted =>
      exact sorted_change sorted uri _
  | setContent uri text =>
      exact sorted_change sorted uri _
  | close uri =>
      simp only [callFile, close]
      cases project.document? uri with
      | none => exact sorted
      | some document => exact sorted.insertEntry uri _

/-- Every call keeps the order of the entries. -/
theorem sorted_carryOut
    {project : Project}
    (sorted : Sorted project.files)
    (call : ProjectCall) :
    Sorted (project.carryOut call).1.files := by
  cases call with
  | host call =>
      rw [carryOut, serve_eq]
      exact sorted_callFile sorted call.fileCall
  | applyChanges uri changes =>
      simp only [carryOut, applyChanges]
      cases project.document? uri with
      | none => exact sorted
      | some document => exact sorted.insertEntry uri _
  | configure settings =>
      exact sorted

namespace Maintained

theorem empty (settings : DocumentSettings) : (Project.empty settings).Maintained where
  sorted := List.Pairwise.nil
  booked := by
    rintro uri document ⟨⟩

theorem carryOut
    {project : Project}
    (maintained : project.Maintained)
    (call : ProjectCall) :
    (project.carryOut call).1.Maintained where
  sorted := sorted_carryOut maintained.sorted call
  booked := by
    intro uri
    rw [entry_carryOut]
    split
    · exact (maintained.booked uri).carryOut _ uri call
    · exact maintained.booked uri

theorem run
    {project : Project}
    (maintained : project.Maintained)
    (calls : List ProjectCall) :
    (project.run calls).Maintained := by
  induction calls generalizing project with
  | nil =>
      exact maintained
  | cons call later inductionHypothesis =>
      exact inductionHypothesis (maintained.carryOut call)

/-- The table of an open document is the one of its text. -/
theorem lines
    {project : Project}
    (maintained : project.Maintained)
    {uri : Uri}
    {document : Document}
    (alive : project.document? uri = some document) :
    document.lines = LineTable.ofText document.content := by
  obtain ⟨limit, booked⟩ := maintained.booked uri document alive
  exact booked.lines

end Maintained

namespace Sorted

/-- In order, an entry that is already there is put in its own place. -/
theorem insertEntry_eq_self
    {files : List (Uri × FileEntry)}
    (sorted : Sorted files)
    {uri : Uri}
    {entry : FileEntry}
    (found : files.lookup uri = some entry) :
    Project.insertEntry uri entry files = files := by
  induction files with
  | nil =>
      cases found
  | cons head rest inductionHypothesis =>
      obtain ⟨other, known⟩ := head
      obtain ⟨headFirst, restSorted⟩ := List.pairwise_cons.mp sorted
      by_cases same : other = uri
      · subst same
        rw [List.lookup_cons_self] at found
        rw [Project.insertEntry, if_pos rfl, Option.some.inj found]
      · have unequal : (uri == other) = false := by
          simpa using fun equal => same equal.symm
        have foundLater : rest.lookup uri = some entry := by
          simpa only [List.lookup_cons, unequal] using found
        have headBefore := headFirst _ ((lookup_eq_some_iff restSorted uri entry).mp foundLater)
        have notFirst : ¬uri.precedes other = true := by
          intro before
          have itself := Uri.precedes_trans before headBefore
          rw [Uri.not_precedes_self] at itself
          cases itself
        rw [Project.insertEntry, if_neg same, if_neg notFirst,
          inductionHypothesis restSorted foundLater]

end Sorted

/-- To put the document of a file in its own place changes nothing. -/
theorem setDocument_self
    {project : Project}
    (sorted : Sorted project.files)
    {uri : Uri}
    {document : Document}
    (alive : project.document? uri = some document) :
    project.setDocument uri document = project := by
  have unaltered := FileEntry.set_self alive
  have found : project.files.lookup uri = some (project.entry uri) := by
    rw [document?, Project.entry] at alive
    rw [Project.entry]
    cases listed : project.files.lookup uri with
    | none =>
        rw [listed] at alive
        cases alive
    | some entry =>
        rfl
  rw [setDocument, unaltered, setEntry, sorted.insertEntry_eq_self found]

end Project

end VersionedText
