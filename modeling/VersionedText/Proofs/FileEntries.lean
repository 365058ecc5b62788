import VersionedText.Proofs.Calls

namespace VersionedText

/-!
# Calls, entry by entry

What a project knows of a file is its entry: the document, while the file is
open, and the number of openings, which outlives the document.  A call that is
about a file makes of its entry what depends on this entry and on the settings
alone, and a call that is not leaves the entry as it is.
-/

namespace FileEntry

/-- Put another document in the place of the one of an open file. -/
def alter (entry : FileEntry) (next : Document → Document) : FileEntry :=
  { entry with document := entry.document.map next }

/-- The document that an opening leads to, before it is marked. -/
def opened (limit : Option Nat) (uri : Uri) (entry : FileEntry) (text : Text) : Document :=
  match entry.document with
  | some document => document.replaceContent text
  | none => Document.create uri (entry.openings + 1) text limit

/-- What a direct call about a file makes of its entry under a limit for new documents. -/
def callFile (limit : Option Nat) (uri : Uri) (entry : FileEntry) : FileCall → FileEntry
  | .openFile _ text mark =>
      let opened := entry.opened limit uri text
      ⟨opened.opening, some (opened.setByteOrderMark mark)⟩
  | .edit _ start stop inserted =>
      entry.alter fun document => document.revise (.edit start stop inserted)
  | .setContent _ text => entry.alter fun document => document.revise (.replacement text)
  | .close _ => { entry with document := none }

/-- What a call about a file makes of its entry under a limit for new documents. -/
def carryOut (limit : Option Nat) (uri : Uri) (entry : FileEntry) : ProjectCall → FileEntry
  | .host call => entry.callFile limit uri call.fileCall
  | .applyChanges _ changes => entry.alter fun document => (document.applyChanges changes).1
  | .configure _ => entry

theorem alter_of_closed
    {entry : FileEntry}
    (closed : entry.document = none)
    (next : Document → Document) :
    entry.alter next = entry := by
  rcases entry with ⟨openings, document⟩
  obtain rfl : document = none := closed
  rfl

theorem alter_of_open
    {entry : FileEntry}
    {document : Document}
    (alive : entry.document = some document)
    (next : Document → Document) :
    entry.alter next = { entry with document := some (next document) } := by
  rw [alter, alive, Option.map_some]

/-- To put a document in its own place changes nothing. -/
theorem set_self
    {entry : FileEntry}
    {document : Document}
    (alive : entry.document = some document) :
    { entry with document := some document } = entry := by
  rw [← alive]

end FileEntry

namespace Project

/-- What is known of each file once the entry of one file is replaced. -/
theorem entry_setEntry
    (project : Project)
    (uri asked : Uri)
    (entry : FileEntry) :
    (project.setEntry uri entry).entry asked =
      if asked = uri then entry else project.entry asked := by
  by_cases same : asked = uri
  · rw [if_pos same, same, entry_setEntry_self]
  · rw [if_neg same, entry_setEntry_of_ne project same]

/-- To leave the entry of one file as it is, is to leave all entries as they are. -/
theorem ite_entry
    (project : Project)
    (uri asked : Uri) :
    (if asked = uri then project.entry uri else project.entry asked) = project.entry asked := by
  by_cases same : asked = uri
  · rw [if_pos same, same]
  · rw [if_neg same]

/-- A change alters the document of its file, if it is open and the change is not refused. -/
theorem entry_change
    (project : Project)
    (uri asked : Uri)
    (next : Document → Except Refusal Document) :
    (project.change uri next).1.entry asked =
      if asked = uri then
        (project.entry uri).alter fun document => document.attempt next
      else
        project.entry asked := by
  have refused
      {refusal : Refusal}
      (answer : project.ask uri next = .error refusal)
      (unaltered : ((project.entry uri).alter fun document => document.attempt next) =
        project.entry uri) :
      (project.change uri next).1.entry asked =
        if asked = uri then
          (project.entry uri).alter fun document => document.attempt next
        else
          project.entry asked := by
    simp only [change, answer, unaltered, ite_entry]
  cases alive : (project.entry uri).document with
  | none =>
      exact refused (by simp only [ask, document?, alive]; rfl) (FileEntry.alter_of_closed alive _)
  | some document =>
      have altered := FileEntry.alter_of_open alive fun document => document.attempt next
      cases outcome : next document with
      | error refusal =>
          have unaltered : document.attempt next = document := by
            rw [Document.attempt, outcome]
          rw [unaltered, FileEntry.set_self alive] at altered
          exact refused (by simp only [ask, document?, alive]; exact outcome) altered
      | ok result =>
          have answer : project.ask uri next = .ok result := by
            simp only [ask, document?, alive]
            exact outcome
          have accepted : document.attempt next = result := by
            rw [Document.attempt, outcome]
          simp only [altered, accepted, change, answer]
          exact entry_setEntry project uri asked _

theorem entry_close
    (project : Project)
    (uri asked : Uri) :
    (project.close uri).1.entry asked =
      if asked = uri then
        { project.entry uri with document := none }
      else
        project.entry asked := by
  rw [close]
  cases alive : project.document? uri with
  | none =>
      have unopened : { project.entry uri with document := none } = project.entry uri := by
        rw [← alive]
        rfl
      rw [unopened, ite_entry]
  | some document =>
      exact entry_setEntry project uri asked _

/-- A direct call makes of the entry of its file what depends on this entry alone. -/
theorem entry_callFile
    (project : Project)
    (call : FileCall)
    (asked : Uri) :
    (project.callFile call).1.entry asked =
      if asked = call.file then
        (project.entry call.file).callFile project.settings.maxEditHistory call.file call
      else
        project.entry asked := by
  cases call with
  | openFile uri text mark =>
      exact entry_setEntry project uri asked _
  | edit uri start stop inserted =>
      exact entry_change project uri asked _
  | setContent uri text =>
      exact entry_change project uri asked _
  | close uri =>
      exact entry_close project uri asked

theorem entry_applyChanges
    (project : Project)
    (uri asked : Uri)
    (changes : List ContentChange) :
    (project.applyChanges uri changes).1.entry asked =
      if asked = uri then
        (project.entry uri).alter fun document => (document.applyChanges changes).1
      else
        project.entry asked := by
  rw [applyChanges]
  cases alive : project.document? uri with
  | none =>
      rw [FileEntry.alter_of_closed alive, ite_entry]
  | some document =>
      rw [FileEntry.alter_of_open alive]
      exact entry_setEntry project uri asked _

/-- What any call makes of what a project knows of a file. -/
theorem entry_carryOut
    (project : Project)
    (call : ProjectCall)
    (uri : Uri) :
    (project.carryOut call).1.entry uri =
      if call.file? = some uri then
        (project.entry uri).carryOut project.settings.maxEditHistory uri call
      else
        project.entry uri := by
  have direction {named : Uri} : some named = some uri ↔ uri = named := by
    rw [Option.some.injEq, eq_comm]
  cases call with
  | host call =>
      rw [carryOut, serve_eq, entry_callFile]
      simp only [ProjectCall.file?, direction]
      by_cases same : uri = call.fileCall.file
      · rw [if_pos same, if_pos same, ← same]
        rfl
      · rw [if_neg same, if_neg same]
  | applyChanges named changes =>
      simp only [ProjectCall.file?, direction]
      refine (entry_applyChanges project named uri changes).trans ?_
      by_cases same : uri = named
      · rw [if_pos same, if_pos same, ← same]
        rfl
      · rw [if_neg same, if_neg same]
  | configure settings =>
      rfl

end Project

end VersionedText
