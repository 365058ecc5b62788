import Mathlib.Order.Bounds.Basic
import VersionedText.Proofs.Upkeep
import VersionedText.Session

namespace VersionedText

/-!
# Batches of changes

An editor sends its changes in batches.  A batch is carried out exactly as far
as its changes would be accepted one by one, each as a batch of its own: the
answer is that of the first change that is refused, and the project is the one
that the changes before it lead to.  Nothing is taken back, and nothing of the
refused change or of those behind it is carried out.
-/

namespace ContentChange

/-- The change replaces what lies between two positions. -/
def isRanged : ContentChange → Bool
  | .ranged .. => true
  | .full _ => false

end ContentChange

namespace Document

/-- The change replaces the whole text of a document by another. -/
def isReplacedBy (document : Document) : ContentChange → Bool
  | .ranged .. => false
  | .full text => document.content ≠ text

/-- How many of the changes replace the whole text that they find by another. -/
def countReplacements (document : Document) : List ContentChange → Nat
  | [] => 0
  | change :: later =>
      let next := document.attempt fun current => current.applyChange change
      (document.isReplacedBy change).toNat + next.countReplacements later

/-- A change that is accepted leads to the next version, unless it puts in the same text. -/
theorem version_of_applyChange
    {document changed : Document}
    {change : ContentChange}
    (accepted : document.applyChange change = .ok changed) :
    changed.version =
      document.version + change.isRanged.toNat + (document.isReplacedBy change).toNat := by
  cases change with
  | ranged range text =>
      obtain ⟨start, stop, edited⟩ := edit_of_applyChange accepted
      obtain ⟨-, rfl⟩ := (edit_eq_ok_iff _ _ _ _ _).mp edited
      rfl
  | full text =>
      obtain rfl := Except.ok.inj accepted
      by_cases same : document.content = text <;>
        simp [replaceContent, ContentChange.isRanged, isReplacedBy, same]

end Document

namespace Project

/-- Carry out each change as a batch of its own. -/
def applyEach
    (project : Project)
    (uri : Uri) :
    List ContentChange → Project × List (Except Refusal Nat)
  | [] => (project, [])
  | change :: later =>
      let (next, answer) := project.applyChanges uri [change]
      let (last, answers) := applyEach next uri later
      (last, answer :: answers)

/-- One by one, all of the changes are accepted. -/
def Accepts (project : Project) (uri : Uri) (changes : List ContentChange) : Prop :=
  ∀ answer ∈ (project.applyEach uri changes).2, ∃ version, answer = .ok version

/--
What a batch comes to on a file with the given document: so many changes are
carried out, and they lead to the last document.
-/
structure BatchOutcome
    (project : Project)
    (uri : Uri)
    (changes : List ContentChange)
    (document : Document)
    (accepted : Nat)
    (last : Document) : Prop where
  /-- No more changes are accepted one by one. -/
  greatest :
    IsGreatest {count | count ≤ changes.length ∧ project.Accepts uri (changes.take count)}
      accepted
  asBatch :
    (project.applyChanges uri changes).1 =
      (project.applyChanges uri (changes.take accepted)).1
  asEach :
    (project.applyChanges uri changes).1 = (project.applyEach uri (changes.take accepted)).1
  opened : (project.applyChanges uri changes).1.document? uri = some last
  version :
    last.version =
      document.version + (changes.take accepted).countP ContentChange.isRanged +
        document.countReplacements (changes.take accepted)
  complete :
    accepted = changes.length → (project.applyChanges uri changes).2 = .ok last.version
  /-- The answer is the one that the first refused change is given by itself. -/
  refused :
    accepted < changes.length →
      ∃ change refusal,
        changes[accepted]? = some change ∧
          ((project.applyChanges uri (changes.take accepted)).1.applyChanges uri [change]).2 =
            .error refusal ∧
          (project.applyChanges uri changes).2 = .error refusal

/-- Of two entries put in the same place the second stays. -/
theorem insertEntry_insertEntry
    (uri : Uri)
    (first second : FileEntry)
    (files : List (Uri × FileEntry)) :
    insertEntry uri second (insertEntry uri first files) = insertEntry uri second files := by
  induction files with
  | nil =>
      simp [insertEntry]
  | cons file rest inductionHypothesis =>
      obtain ⟨other, known⟩ := file
      by_cases same : other = uri
      · simp [insertEntry, same]
      · by_cases before : uri.precedes other
        · simp [insertEntry, same, before]
        · simp [insertEntry, same, before, inductionHypothesis]

theorem setDocument_setDocument
    (project : Project)
    (uri : Uri)
    (first second : Document) :
    (project.setDocument uri first).setDocument uri second = project.setDocument uri second := by
  rw [setDocument, setDocument, entry_setEntry_self, setEntry, setEntry,
    insertEntry_insertEntry]
  rfl

/-- A batch of one change is that change, and refused it changes nothing. -/
theorem applyChanges_singleton
    {project : Project}
    (sorted : Sorted project.files)
    (uri : Uri)
    (change : ContentChange) :
    project.applyChanges uri [change] =
      project.change uri fun document => document.applyChange change := by
  rw [applyChanges, Project.change, ask]
  cases alive : project.document? uri with
  | none =>
      rfl
  | some document =>
      simp only [Document.applyChanges]
      cases outcome : document.applyChange change with
      | error refusal => simp only [setDocument_self sorted alive, Except.map]
      | ok changed => rfl

/-- A batch goes on after its first change, if this is accepted, as a batch of the others. -/
theorem applyChanges_cons
    (project : Project)
    (uri : Uri)
    (change : ContentChange)
    (later : List ContentChange) :
    project.applyChanges uri (change :: later) =
      match project.applyChanges uri [change] with
      | (next, .ok _) => next.applyChanges uri later
      | (next, .error refusal) => (next, .error refusal) := by
  cases alive : project.document? uri with
  | none =>
      simp only [applyChanges, alive]
  | some document =>
      simp only [applyChanges, alive, Document.applyChanges]
      cases outcome : document.applyChange change with
      | error refusal =>
          rfl
      | ok changed =>
          simp only [Except.map, document?_setDocument, if_true, setDocument_setDocument]

/-- A batch without changes leaves everything as it is. -/
theorem applyChanges_nil
    {project : Project}
    {uri : Uri}
    {document : Document}
    (sorted : Sorted project.files)
    (alive : project.document? uri = some document) :
    project.applyChanges uri [] = (project, .ok document.version) := by
  simp only [applyChanges, alive, Document.applyChanges, setDocument_self sorted alive]
  rfl

theorem accepts_nil (project : Project) (uri : Uri) : project.Accepts uri [] := by
  rintro answer ⟨⟩

/-- Changes are accepted when the first one is and the others are after it. -/
theorem accepts_cons_iff
    (project : Project)
    (uri : Uri)
    (change : ContentChange)
    (later : List ContentChange) :
    project.Accepts uri (change :: later) ↔
      (∃ version, (project.applyChanges uri [change]).2 = .ok version) ∧
        (project.applyChanges uri [change]).1.Accepts uri later := by
  simp only [Accepts, applyEach, List.forall_mem_cons]

namespace BatchOutcome

variable {project : Project} {uri : Uri} {document : Document}

theorem nil
    (sorted : Sorted project.files)
    (alive : project.document? uri = some document) :
    BatchOutcome project uri [] document 0 document := by
  have unchanged := applyChanges_nil sorted alive
  exact
    { greatest := ⟨⟨Nat.le_refl 0, project.accepts_nil uri⟩, fun count within => within.1⟩
      asBatch := rfl
      asEach := congrArg Prod.fst unchanged
      opened := by rw [unchanged, alive]
      version := rfl
      complete := fun _ => congrArg Prod.snd unchanged
      refused := fun more => absurd more (Nat.lt_irrefl 0) }

/-- A batch that begins with a refused change leaves everything as it is. -/
theorem of_refused
    {change : ContentChange}
    {refusal : Refusal}
    (sorted : Sorted project.files)
    (alive : project.document? uri = some document)
    (first : project.applyChanges uri [change] = (project, .error refusal))
    (later : List ContentChange) :
    BatchOutcome project uri (change :: later) document 0 document := by
  have unchanged := applyChanges_nil sorted alive
  have stopped : project.applyChanges uri (change :: later) = (project, .error refusal) := by
    rw [applyChanges_cons, first]
  refine
    { greatest := ⟨⟨Nat.zero_le _, project.accepts_nil uri⟩, ?_⟩
      asBatch := by rw [List.take_zero, stopped, unchanged]
      asEach := by rw [stopped]; rfl
      opened := by rw [stopped, alive]
      version := rfl
      complete := fun none => absurd none.symm (Nat.succ_ne_zero _)
      refused := fun _ => ⟨change, refusal, rfl, ?_, by rw [stopped]⟩ }
  · rintro count ⟨-, accepts⟩
    cases count with
    | zero =>
        exact Nat.le_refl 0
    | succ count =>
        rw [List.take_succ_cons, accepts_cons_iff, first] at accepts
        obtain ⟨⟨version, impossible⟩, -⟩ := accepts
        cases impossible
  · rw [List.take_zero, unchanged, first]

/-- Behind an accepted change a batch comes to what the batch of the others comes to. -/
theorem cons
    {next : Project}
    {changed last : Document}
    {change : ContentChange}
    {later : List ContentChange}
    {version accepted : Nat}
    (first : project.applyChanges uri [change] = (next, .ok version))
    (altered : document.applyChange change = .ok changed)
    (rest : BatchOutcome next uri later changed accepted last) :
    BatchOutcome project uri (change :: later) document (accepted + 1) last := by
  have goesOn (others : List ContentChange) :
      project.applyChanges uri (change :: others) = next.applyChanges uri others := by
    rw [applyChanges_cons, first]
  have acceptsRest (others : List ContentChange) :
      project.Accepts uri (change :: others) ↔ next.Accepts uri others := by
    rw [accepts_cons_iff, first]
    exact and_iff_right ⟨version, rfl⟩
  obtain ⟨⟨within, accepts⟩, bound⟩ := rest.greatest
  refine
    { greatest := ⟨⟨Nat.succ_le_succ within, (acceptsRest _).mpr accepts⟩, ?_⟩
      asBatch := by rw [List.take_succ_cons, goesOn, goesOn, rest.asBatch]
      asEach := by rw [List.take_succ_cons, goesOn, rest.asEach, applyEach, first]
      opened := by rw [goesOn, rest.opened]
      version := ?_
      complete := fun all => by rw [goesOn, rest.complete (Nat.succ.inj all)]
      refused := ?_ }
  · rintro (_ | count) ⟨countWithin, countAccepts⟩
    · exact Nat.zero_le _
    · rw [List.take_succ_cons, acceptsRest] at countAccepts
      exact Nat.succ_le_succ (bound ⟨Nat.le_of_succ_le_succ countWithin, countAccepts⟩)
  · have next : document.attempt (fun current => current.applyChange change) = changed := by
      rw [Document.attempt, altered]
    have counted : (if change.isRanged = true then 1 else 0) = change.isRanged.toNat := by
      cases change.isRanged <;> rfl
    rw [rest.version, Document.version_of_applyChange altered, List.take_succ_cons,
      List.countP_cons, Document.countReplacements, next, counted]
    omega
  · intro more
    obtain ⟨refusedChange, refusal, found, alone, answer⟩ :=
      rest.refused (Nat.lt_of_succ_lt_succ more)
    refine ⟨refusedChange, refusal, found, ?_, ?_⟩
    · rw [List.take_succ_cons, goesOn, alone]
    · rw [goesOn, answer]

/-- Every batch on an open file comes to something. -/
theorem exists_of_open
    (sorted : Sorted project.files)
    (alive : project.document? uri = some document)
    (changes : List ContentChange) :
    ∃ accepted last, BatchOutcome project uri changes document accepted last := by
  induction changes generalizing project document with
  | nil =>
      exact ⟨0, document, .nil sorted alive⟩
  | cons change later inductionHypothesis =>
      have single := applyChanges_singleton sorted uri change
      rw [Project.change, ask, alive] at single
      cases altered : document.applyChange change with
      | error refusal =>
          simp only [altered] at single
          exact ⟨0, document, .of_refused sorted alive single later⟩
      | ok changed =>
          simp only [altered] at single
          have nextSorted : Sorted (project.setDocument uri changed).files :=
            sorted.insertEntry uri _
          have nextAlive : (project.setDocument uri changed).document? uri = some changed := by
            rw [document?_setDocument, if_pos rfl]
          obtain ⟨accepted, last, rest⟩ := inductionHypothesis nextSorted nextAlive
          exact ⟨accepted + 1, last, .cons single altered rest⟩

end BatchOutcome

end Project

end VersionedText
