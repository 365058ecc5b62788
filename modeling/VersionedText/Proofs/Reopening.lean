import Mathlib.Logic.Function.Basic
import VersionedText.Proofs.FileEntries
import VersionedText.Proofs.Reach
import VersionedText.Proofs.Watch

namespace VersionedText

/-!
# A watch over a file that is closed and opened again

An engine has one cursor for a file, and the file may be closed and opened again
under it.  Each opening counts its versions from one, so a version stamp says
which text it stands for only together with the opening.  The cursor remembers
the stamp alone.  Its plans are right as long as the snapshot committed last and
the one planned for are of one opening; across two openings they may be wrong,
both when there is nothing to do and when there is a range to do.
-/

namespace Analysis

/-- A project and what an engine holds of one of its files. -/
structure FileWatch where
  uri : Uri
  project : Project
  /-- All snapshots taken of the file so far, oldest first. -/
  snapshots : List Snapshot
  cursor : Cursor
  /-- The snapshot committed last, unless the cursor was invalidated since. -/
  committed : Option Snapshot

/-- What can happen during a watch over a file. -/
inductive FileEvent where
  /-- A call on the project, about this file or not. -/
  | called (call : ProjectCall)
  /-- A snapshot of the file is taken. -/
  | captured
  /-- The snapshot that was taken as number `index` is committed. -/
  | committed (index : Nat)
  | invalidated
  deriving DecidableEq

namespace FileWatch

/-- The beginning of a watch over a file, in a project without files. -/
def start (settings : DocumentSettings) (uri : Uri) : FileWatch where
  uri := uri
  project := .empty settings
  snapshots := []
  cursor := .fresh
  committed := none

/-- What an event makes of a watch; nothing is captured of a file that is not open. -/
def step (watch : FileWatch) : FileEvent → FileWatch
  | .called call => { watch with project := (watch.project.carryOut call).1 }
  | .captured =>
      match watch.project.document? watch.uri with
      | some document => { watch with snapshots := watch.snapshots ++ [document.snapshot] }
      | none => watch
  | .committed index =>
      match watch.snapshots[index]? with
      | some snapshot =>
          { watch with
            cursor := watch.cursor.commit snapshot
            committed := some snapshot }
      | none => watch
  | .invalidated =>
      { watch with
        cursor := watch.cursor.invalidate
        committed := none }

/-- The watch after a run of events. -/
def run (watch : FileWatch) (events : List FileEvent) : FileWatch :=
  events.foldl step watch

/-- What a pass over a snapshot has to cover at this point of the watch. -/
def plan (watch : FileWatch) (snapshot : Snapshot) : Plan :=
  watch.cursor.plan snapshot (watch.project.document? watch.uri)

/-- Openings and versions together stand for the texts that a file has had. -/
structure Chronicled
    (entry : FileEntry)
    (snapshots : List Snapshot)
    (texts : Nat → Nat → Text) : Prop where
  current :
    ∀ document, entry.document = some document →
      document.opening = entry.openings ∧ document.Follows (texts entry.openings)
  captured :
    ∀ snapshot, snapshot ∈ snapshots →
      snapshot.opening ≤ entry.openings ∧
        texts snapshot.opening snapshot.version = snapshot.text
  past :
    ∀ snapshot, snapshot ∈ snapshots →
      ∀ document, entry.document = some document →
        snapshot.opening = entry.openings → snapshot.version ≤ document.version

namespace Chronicled

variable {entry : FileEntry} {snapshots : List Snapshot} {texts : Nat → Nat → Text}

/-- A new opening has a page of its own. -/
theorem create
    (chronicled : Chronicled entry snapshots texts)
    (uri : Uri)
    (text : Text)
    (limit : Option Nat) :
    Chronicled
      ⟨entry.openings + 1, some (Document.create uri (entry.openings + 1) text limit)⟩
      snapshots
      (Function.update texts (entry.openings + 1) fun _ => text) where
  current := by
    rintro document created
    cases created
    refine ⟨rfl, ?_⟩
    rw [Function.update_self]
    exact .create _ _ _ _
  captured := by
    intro snapshot taken
    obtain ⟨before, sameText⟩ := chronicled.captured snapshot taken
    refine ⟨Nat.le_succ_of_le before, ?_⟩
    rw [Function.update_of_ne (Nat.ne_of_lt (Nat.lt_succ_of_le before))]
    exact sameText
  past := by
    intro snapshot taken document _ sameOpening
    obtain ⟨before, -⟩ := chronicled.captured snapshot taken
    exact absurd sameOpening (Nat.ne_of_lt (Nat.lt_succ_of_le before))

/-- A revision adds to the page of the present opening and alters nothing on it. -/
theorem revise
    (chronicled : Chronicled entry snapshots texts)
    {document : Document}
    (alive : entry.document = some document)
    (revision : Revision) :
    Chronicled { entry with document := some (document.revise revision) } snapshots
      (Function.update texts entry.openings
        (Document.note (texts entry.openings) (document.revise revision))) where
  current := by
    obtain ⟨sameOpening, follows⟩ := chronicled.current document alive
    obtain ⟨-, keptOpening⟩ := document.source_revise revision
    rintro revised ⟨⟩
    refine ⟨keptOpening.trans sameOpening, ?_⟩
    rw [Function.update_self]
    exact follows.revise revision
  captured := by
    obtain ⟨-, follows⟩ := chronicled.current document alive
    intro snapshot taken
    obtain ⟨before, sameText⟩ := chronicled.captured snapshot taken
    refine ⟨before, ?_⟩
    by_cases present : snapshot.opening = entry.openings
    · have past := chronicled.past snapshot taken document alive present
      rw [present, Function.update_self, follows.note_revise revision past, ← present]
      exact sameText
    · rw [Function.update_of_ne present]
      exact sameText
  past := by
    rintro snapshot taken revised ⟨⟩ present
    exact Nat.le_trans (chronicled.past snapshot taken document alive present)
      (document.version_le_revise revision)

theorem setByteOrderMark
    {openings : Nat}
    {document : Document}
    (chronicled : Chronicled ⟨openings, some document⟩ snapshots texts)
    (mark : ByteOrderMark) :
    Chronicled ⟨openings, some (document.setByteOrderMark mark)⟩ snapshots texts where
  current := by
    obtain ⟨sameOpening, follows⟩ := chronicled.current document rfl
    rintro marked ⟨⟩
    exact ⟨sameOpening, follows.setByteOrderMark mark⟩
  captured := chronicled.captured
  past := by
    rintro snapshot taken marked ⟨⟩ present
    exact chronicled.past snapshot taken document rfl present

theorem close (chronicled : Chronicled entry snapshots texts) :
    Chronicled { entry with document := none } snapshots texts where
  current := by
    rintro document ⟨⟩
  captured := chronicled.captured
  past := by
    rintro snapshot taken document ⟨⟩

theorem applyChanges
    (chronicled : Chronicled entry snapshots texts)
    {document : Document}
    (alive : entry.document = some document)
    (changes : List ContentChange) :
    ∃ extended : Nat → Nat → Text,
      Chronicled { entry with document := some (document.applyChanges changes).1 }
        snapshots extended := by
  induction changes generalizing entry texts document with
  | nil =>
      refine ⟨texts, ?_⟩
      rw [Document.applyChanges, FileEntry.set_self alive]
      exact chronicled
  | cons change later inductionHypothesis =>
      rw [Document.applyChanges]
      cases outcome : document.applyChange change with
      | error refusal =>
          refine ⟨texts, ?_⟩
          rw [FileEntry.set_self alive]
          exact chronicled
      | ok changed =>
          obtain ⟨revision, rfl⟩ := Document.exists_revise_of_applyChange outcome
          exact inductionHypothesis (chronicled.revise alive revision) rfl

/-- An opening continues the present page if the file is open, and begins a new one if not. -/
theorem openFile
    (chronicled : Chronicled entry snapshots texts)
    (limit : Option Nat)
    (uri : Uri)
    (text : Text)
    (mark : ByteOrderMark) :
    ∃ extended : Nat → Nat → Text,
      Chronicled (entry.callFile limit uri (.openFile uri text mark)) snapshots extended := by
  rw [FileEntry.callFile, FileEntry.opened]
  cases alive : entry.document with
  | none =>
      have created := (chronicled.create uri text limit).setByteOrderMark mark
      exact ⟨_, created⟩
  | some document =>
      have replaced := (chronicled.revise alive (.replacement text)).setByteOrderMark mark
      obtain ⟨sameOpening, -⟩ := chronicled.current document alive
      obtain ⟨-, keptOpening⟩ := document.source_revise (.replacement text)
      rw [← keptOpening.trans sameOpening] at replaced
      exact ⟨_, replaced⟩

/-- A revision asked of a file that is not open is none. -/
theorem alter
    (chronicled : Chronicled entry snapshots texts)
    (revision : Revision) :
    ∃ extended : Nat → Nat → Text,
      Chronicled (entry.alter fun document => document.revise revision) snapshots extended := by
  cases alive : entry.document with
  | none =>
      rw [FileEntry.alter_of_closed alive]
      exact ⟨texts, chronicled⟩
  | some document =>
      rw [FileEntry.alter_of_open alive]
      exact ⟨_, chronicled.revise alive revision⟩

/-- No call about a file alters what the openings and versions of its snapshots stand for. -/
theorem carryOut
    (chronicled : Chronicled entry snapshots texts)
    (limit : Option Nat)
    (uri : Uri)
    (call : ProjectCall) :
    ∃ extended : Nat → Nat → Text,
      Chronicled (entry.carryOut limit uri call) snapshots extended := by
  cases call with
  | host call =>
      rw [FileEntry.carryOut]
      cases call.fileCall with
      | openFile _ text mark => exact chronicled.openFile limit uri text mark
      | edit _ start stop inserted => exact chronicled.alter (.edit start stop inserted)
      | setContent _ text => exact chronicled.alter (.replacement text)
      | close _ => exact ⟨texts, chronicled.close⟩
  | applyChanges _ changes =>
      rw [FileEntry.carryOut]
      cases alive : entry.document with
      | none =>
          rw [FileEntry.alter_of_closed alive]
          exact ⟨texts, chronicled⟩
      | some document =>
          rw [FileEntry.alter_of_open alive]
          exact chronicled.applyChanges alive changes
  | configure settings =>
      exact ⟨texts, chronicled⟩

/-- A snapshot taken now is of the last entry on the present page. -/
theorem capture
    (chronicled : Chronicled entry snapshots texts)
    {document : Document}
    (alive : entry.document = some document) :
    Chronicled entry (snapshots ++ [document.snapshot]) texts where
  current := chronicled.current
  captured := by
    obtain ⟨sameOpening, follows⟩ := chronicled.current document alive
    intro snapshot taken
    rcases List.mem_append.mp taken with before | now
    · exact chronicled.captured snapshot before
    · obtain rfl := List.mem_singleton.mp now
      refine ⟨Nat.le_of_eq sameOpening, ?_⟩
      simp only [Document.snapshot, sameOpening]
      exact follows.content
  past := by
    intro snapshot taken present presentAlive sameOpening
    rcases List.mem_append.mp taken with before | now
    · exact chronicled.past snapshot before present presentAlive sameOpening
    · obtain rfl := List.mem_singleton.mp now
      obtain rfl := Option.some.inj (alive.symm.trans presentAlive)
      exact Nat.le_refl _

/-- A change reported between two snapshots of one opening explains their texts. -/
theorem explains_of_changeSince?
    (chronicled : Chronicled entry snapshots texts)
    {earlier snapshot : Snapshot}
    {change : ChangeRange}
    (earlierTaken : earlier ∈ snapshots)
    (taken : snapshot ∈ snapshots)
    (sameOpening : earlier.opening = snapshot.opening)
    (known : snapshot.changeSince? entry.document earlier.version = some change) :
    change.Explains earlier.text snapshot.text := by
  obtain ⟨-, earlierText⟩ := chronicled.captured earlier earlierTaken
  obtain ⟨-, snapshotText⟩ := chronicled.captured snapshot taken
  rw [← earlierText, ← snapshotText, sameOpening]
  rw [Snapshot.changeSince?] at known
  split at known
  · rename_i sameVersion
    cases known
    rw [sameVersion]
    exact .unchanged _
  · obtain ⟨document, attached, reported⟩ := Option.bind_eq_some_iff.mp known
    obtain ⟨alive, source⟩ := Option.filter_eq_some_iff.mp attached
    obtain ⟨present, follows⟩ := chronicled.current document alive
    have sourceOpening : document.opening = snapshot.opening := by
      simp only [Bool.and_eq_true, beq_iff_eq] at source
      exact source.2
    rw [← sourceOpening, present]
    exact follows.recounts.explains_of_exactChangeBetween? reported

end Chronicled

/-- What an engine holds of a file is chronicled, and the cursor has the version committed last. -/
structure Stamped (watch : FileWatch) : Prop where
  chronicled :
    ∃ texts : Nat → Nat → Text,
      Chronicled (watch.project.entry watch.uri) watch.snapshots texts
  committed :
    ∀ snapshot, watch.committed = some snapshot → snapshot ∈ watch.snapshots
  analysed : watch.cursor.analysed = watch.committed.map Snapshot.version

namespace Stamped

theorem start
    (settings : DocumentSettings)
    (uri : Uri) :
    (FileWatch.start settings uri).Stamped where
  chronicled := by
    refine ⟨fun _ _ => [], ?_, ?_, ?_⟩
    · rintro document ⟨⟩
    · rintro snapshot ⟨⟩
    · rintro snapshot ⟨⟩
  committed := by
    rintro snapshot ⟨⟩
  analysed := rfl

/-- Whatever happens to the project and the cursor, the snapshots stay chronicled. -/
theorem step
    {watch : FileWatch}
    (stamped : watch.Stamped)
    (event : FileEvent) :
    (watch.step event).Stamped := by
  obtain ⟨texts, chronicled⟩ := stamped.chronicled
  cases event with
  | called call =>
      refine ⟨?_, stamped.committed, stamped.analysed⟩
      simp only [FileWatch.step, Project.entry_carryOut]
      split
      · exact chronicled.carryOut watch.project.settings.maxEditHistory watch.uri call
      · exact ⟨texts, chronicled⟩
  | captured =>
      rw [FileWatch.step]
      cases alive : watch.project.document? watch.uri with
      | none =>
          exact stamped
      | some document =>
          refine ⟨⟨texts, chronicled.capture alive⟩, ?_, stamped.analysed⟩
          intro snapshot last
          exact List.mem_append_left _ (stamped.committed snapshot last)
  | committed index =>
      rw [FileWatch.step]
      cases found : watch.snapshots[index]? with
      | none =>
          exact stamped
      | some snapshot =>
          refine ⟨⟨texts, chronicled⟩, ?_, rfl⟩
          rintro last ⟨⟩
          exact List.mem_of_getElem? found
  | invalidated =>
      refine ⟨⟨texts, chronicled⟩, ?_, rfl⟩
      rintro snapshot ⟨⟩

theorem run
    {watch : FileWatch}
    (stamped : watch.Stamped)
    (events : List FileEvent) :
    (watch.run events).Stamped := by
  induction events generalizing watch with
  | nil =>
      exact stamped
  | cons event later inductionHypothesis =>
      exact inductionHypothesis (stamped.step event)

end Stamped

end FileWatch

/--
Whatever calls are made on the project, and however often the file is closed and
opened again: for two snapshots of one opening, nothing to do means that the
text is the one committed last, and a range to do rebuilds the text from the one
committed last.
-/
theorem plan_within_opening
    {settings : DocumentSettings}
    {uri : Uri}
    {events : List FileEvent}
    {committed snapshot : Snapshot}
    (last : ((FileWatch.start settings uri).run events).committed = some committed)
    (taken : snapshot ∈ ((FileWatch.start settings uri).run events).snapshots)
    (sameOpening : committed.opening = snapshot.opening) :
    let watch := (FileWatch.start settings uri).run events
    (watch.plan snapshot = .upToDate → snapshot.text = committed.text) ∧
      ∀ change, watch.plan snapshot = .incremental change →
        change.rebuild? committed.text snapshot.text = some snapshot.text := by
  intro watch
  have stamped := (FileWatch.Stamped.start settings uri).run events
  obtain ⟨texts, chronicled⟩ := stamped.chronicled
  have analysed := stamped.analysed
  rw [last, Option.map_some] at analysed
  have explains
      {change : ChangeRange}
      (known : snapshot.changeSince? (watch.project.document? watch.uri) committed.version =
        some change) :
      change.Explains committed.text snapshot.text :=
    chronicled.explains_of_changeSince? (stamped.committed committed last) taken sameOpening known
  constructor
  · intro idle
    obtain ⟨version, change, sameVersion, known, unchanged⟩ :=
      (Cursor.plan_eq_upToDate_iff _ _ _).mp idle
    obtain rfl := Option.some.inj (analysed.symm.trans sameVersion)
    exact ((explains known).eq_of_isUnchanged unchanged).symm
  · intro change incremental
    obtain ⟨version, sameVersion, known, -⟩ :=
      (Cursor.plan_eq_incremental_iff _ _ _ _).mp incremental
    obtain rfl := Option.some.inj (analysed.symm.trans sameVersion)
    exact (explains known).2

/-- Of a file that was opened again before the last commit, edits are planned as ranges. -/
theorem plan_after_reopening :
    let watch :=
      (FileWatch.start .default .untitled).run
        [.called (.host (.direct (.openFile .untitled ['a'] .absent))), .captured, .committed 0,
          .called (.host (.direct (.close .untitled))),
          .called (.host (.direct (.openFile .untitled ['x', 'z'] .absent))), .captured,
          .committed 1,
          .called (.host (.direct (.edit .untitled 1 1 ['é']))), .captured]
    let committed : Snapshot := ⟨.untitled, 2, 1, ['x', 'z']⟩
    let snapshot : Snapshot := ⟨.untitled, 2, 2, ['x', 'é', 'z']⟩
    let change : ChangeRange := ⟨⟨1, 1⟩, 2⟩
    watch.committed = some committed ∧
      snapshot ∈ watch.snapshots ∧
      committed.opening = snapshot.opening ∧
      watch.plan snapshot = .incremental change ∧
      change.rebuild? committed.text snapshot.text = some snapshot.text := by
  intro watch committed snapshot change
  have last : watch.committed = some committed := by
    simp only [watch, committed]
    decide
  have taken : snapshot ∈ watch.snapshots := by
    simp only [watch, snapshot]
    decide
  have incremental : watch.plan snapshot = .incremental change := by
    simp only [watch, snapshot, change]
    decide
  exact ⟨last, taken, rfl, incremental, (plan_within_opening last taken rfl).2 change incremental⟩

/--
Closed after the first pass and opened again, a file of another text is taken for
unchanged, and the first edit for all that has changed.
-/
theorem plan_across_openings :
    let reopened :=
      (FileWatch.start .default .untitled).run
        [.called (.host (.direct (.openFile .untitled ['a', 'b', 'c'] .absent))), .captured,
          .committed 0,
          .called (.host (.direct (.close .untitled))),
          .called (.host (.direct (.openFile .untitled ['x', 'y', 'z'] .absent))), .captured]
    let edited :=
      reopened.run [.called (.host (.direct (.edit .untitled 0 0 ['_']))), .captured]
    let committed : Snapshot := ⟨.untitled, 1, 1, ['a', 'b', 'c']⟩
    let opened : Snapshot := ⟨.untitled, 2, 1, ['x', 'y', 'z']⟩
    let longer : Snapshot := ⟨.untitled, 2, 2, ['_', 'x', 'y', 'z']⟩
    let change : ChangeRange := ⟨⟨0, 0⟩, 1⟩
    (reopened.committed = some committed ∧
        opened ∈ reopened.snapshots ∧
        reopened.plan opened = .upToDate ∧
        opened.text ≠ committed.text) ∧
      (edited.committed = some committed ∧
        longer ∈ edited.snapshots ∧
        edited.plan longer = .incremental change ∧
        change.rebuild? committed.text longer.text ≠ some longer.text) := by
  decide

end Analysis

end VersionedText
