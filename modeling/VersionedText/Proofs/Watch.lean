import VersionedText.Analysis
import VersionedText.Proofs.Revision

namespace VersionedText

/-!
# An engine's watch over a document

An engine takes snapshots of a document while the document goes on being
revised, and plans and commits them in any order, also after the document is
gone.  A plan compares nothing but version stamps and what is left of the
history.  It is right all the same: throughout a watch every snapshot carries
the text that belongs to its version, so that stamps stand for texts.
-/

namespace Analysis

namespace Cursor

/-- Nothing is to be done exactly when the change since the last pass is known to be none. -/
theorem plan_eq_upToDate_iff
    (cursor : Cursor)
    (snapshot : Snapshot)
    (current : Option Document) :
    cursor.plan snapshot current = .upToDate ↔
      ∃ analysed change,
        cursor.analysed = some analysed ∧
          snapshot.changeSince? current analysed = some change ∧
          change.isUnchanged = true := by
  rw [plan]
  cases cursor.analysed with
  | none =>
      simp
  | some analysed =>
      cases known : snapshot.changeSince? current analysed with
      | none =>
          simp [known]
      | some change =>
          cases idle : change.isUnchanged <;> simp [known, idle]

/-- A range is to be done exactly when it is the known change since the last pass. -/
theorem plan_eq_incremental_iff
    (cursor : Cursor)
    (snapshot : Snapshot)
    (current : Option Document)
    (change : ChangeRange) :
    cursor.plan snapshot current = .incremental change ↔
      ∃ analysed,
        cursor.analysed = some analysed ∧
          snapshot.changeSince? current analysed = some change ∧
          change.isUnchanged = false := by
  rw [plan]
  cases cursor.analysed with
  | none =>
      simp
  | some analysed =>
      cases known : snapshot.changeSince? current analysed with
      | none =>
          simp [known]
      | some found =>
          cases idle : found.isUnchanged <;> simp [known, idle]
          · rintro rfl
            exact idle
          · rintro rfl
            exact idle

/-- All is to be done exactly when there was no pass or the change since then is not known. -/
theorem plan_eq_full_iff
    (cursor : Cursor)
    (snapshot : Snapshot)
    (current : Option Document) :
    cursor.plan snapshot current = .full ↔
      cursor.analysed = none ∨
        ∃ analysed,
          cursor.analysed = some analysed ∧
            snapshot.changeSince? current analysed = none := by
  rw [plan]
  cases cursor.analysed with
  | none =>
      simp
  | some analysed =>
      cases known : snapshot.changeSince? current analysed with
      | none =>
          simp [known]
      | some change =>
          cases idle : change.isUnchanged <;> simp [known, idle]

end Cursor

/-- A document, until it is dropped, and what an engine holds of it. -/
structure Watch where
  document : Option Document
  /-- All snapshots taken so far, oldest first. -/
  snapshots : List Snapshot
  cursor : Cursor
  /-- The snapshot committed last, unless the cursor was invalidated since. -/
  committed : Option Snapshot

/-- What can happen during a watch; planning changes nothing and is not among it. -/
inductive Event where
  | revised (revision : Revision)
  /-- A snapshot of the document is taken. -/
  | captured
  /-- The document is dropped. -/
  | dropped
  /-- The snapshot that was taken as number `index` is committed. -/
  | committed (index : Nat)
  | invalidated
  deriving Repr, DecidableEq

namespace Watch

/-- The beginning of a watch, with a new document. -/
def start (uri : Uri) (opening : Nat) (text : Text) (limit : Option Nat) : Watch where
  document := some (Document.create uri opening text limit)
  snapshots := []
  cursor := .fresh
  committed := none

/-- What an event makes of a watch; nothing is captured of a dropped document. -/
def step (watch : Watch) : Event → Watch
  | .revised revision =>
      { watch with document := watch.document.map fun document => document.revise revision }
  | .captured =>
      match watch.document with
      | some document => { watch with snapshots := watch.snapshots ++ [document.snapshot] }
      | none => watch
  | .dropped =>
      { watch with document := none }
  | .committed index =>
      match watch.snapshots[index]? with
      | some snapshot =>
          { watch with
            cursor := watch.cursor.commit snapshot
            committed := some snapshot }
      | none => watch
  | .invalidated =>
      { watch with
        cursor := watch.cursor.invalidate
        committed := none }

/-- What a run of events makes of a watch. -/
def run (watch : Watch) (events : List Event) : Watch :=
  events.foldl step watch

/-- What a pass over a snapshot has to cover at this point of the watch. -/
def plan (watch : Watch) (snapshot : Snapshot) : Plan :=
  watch.cursor.plan snapshot watch.document

/--
Versions stand for texts, up to the version `latest` that the document has or
had when it was dropped.
-/
structure Stamped
    (watch : Watch)
    (uri : Uri)
    (opening latest : Nat)
    (textAt : Nat → Text) : Prop where
  document :
    ∀ document, watch.document = some document →
      document.uri = uri ∧ document.opening = opening ∧
        document.version = latest ∧ document.Follows textAt
  snapshots :
    ∀ snapshot, snapshot ∈ watch.snapshots →
      snapshot.uri = uri ∧ snapshot.opening = opening ∧
        snapshot.version ≤ latest ∧ textAt snapshot.version = snapshot.text
  committed :
    ∀ snapshot, watch.committed = some snapshot → snapshot ∈ watch.snapshots
  analysed : watch.cursor.analysed = watch.committed.map Snapshot.version

namespace Stamped

theorem start
    (uri : Uri)
    (opening : Nat)
    (text : Text)
    (limit : Option Nat) :
    (Watch.start uri opening text limit).Stamped uri opening 1 fun _ => text where
  document := by
    rintro document created
    cases created
    exact ⟨rfl, rfl, rfl, .create uri opening text limit⟩
  snapshots := by
    simp [Watch.start]
  committed := by
    simp [Watch.start]
  analysed := rfl

/-- Whatever happens, versions go on standing for texts. -/
theorem step
    {watch : Watch}
    {uri : Uri}
    {opening latest : Nat}
    {textAt : Nat → Text}
    (stamped : watch.Stamped uri opening latest textAt)
    (event : Event) :
    ∃ (later : Nat) (extended : Nat → Text),
      (watch.step event).Stamped uri opening later extended := by
  cases event with
  | revised revision =>
      cases alive : watch.document with
      | none =>
          refine ⟨latest, textAt, ?_, stamped.snapshots, stamped.committed, stamped.analysed⟩
          simp [Watch.step, alive]
      | some document =>
          obtain ⟨sameUri, sameOpening, atLatest, follows⟩ := stamped.document document alive
          refine ⟨(document.revise revision).version,
            Document.note textAt (document.revise revision),
            ?_, ?_, stamped.committed, stamped.analysed⟩
          · simp only [Watch.step, alive, Option.map_some, Option.some.injEq]
            rintro revised rfl
            obtain ⟨keptUri, keptOpening⟩ := document.source_revise revision
            exact ⟨keptUri.trans sameUri, keptOpening.trans sameOpening,
              rfl, follows.revise revision⟩
          · intro snapshot taken
            obtain ⟨snapshotUri, snapshotOpening, past, sameText⟩ :=
              stamped.snapshots snapshot taken
            rw [← atLatest] at past
            exact ⟨snapshotUri, snapshotOpening,
              Nat.le_trans past (document.version_le_revise revision),
              (follows.note_revise revision past).trans sameText⟩
  | captured =>
      cases alive : watch.document with
      | none =>
          refine ⟨latest, textAt, ?_⟩
          simpa only [Watch.step, alive] using stamped
      | some document =>
          obtain ⟨sameUri, sameOpening, atLatest, follows⟩ := stamped.document document alive
          refine ⟨latest, textAt, ?_⟩
          simp only [Watch.step, alive]
          refine ⟨by simpa only [alive] using stamped.document, ?_, ?_, stamped.analysed⟩
          · intro snapshot taken
            rcases List.mem_append.mp taken with before | now
            · exact stamped.snapshots snapshot before
            · obtain rfl := List.mem_singleton.mp now
              exact ⟨sameUri, sameOpening, Nat.le_of_eq atLatest, follows.content⟩
          · intro snapshot last
            exact List.mem_append_left _ (stamped.committed snapshot last)
  | dropped =>
      refine ⟨latest, textAt, ?_, stamped.snapshots, stamped.committed, stamped.analysed⟩
      simp [Watch.step]
  | committed index =>
      refine ⟨latest, textAt, ?_⟩
      simp only [Watch.step]
      split
      · rename_i snapshot found
        refine ⟨stamped.document, stamped.snapshots, ?_, rfl⟩
        rintro last ⟨⟩
        exact List.mem_of_getElem? found
      · exact stamped
  | invalidated =>
      refine ⟨latest, textAt, stamped.document, stamped.snapshots, ?_, rfl⟩
      simp [Watch.step]

theorem run
    {watch : Watch}
    {uri : Uri}
    {opening latest : Nat}
    {textAt : Nat → Text}
    (stamped : watch.Stamped uri opening latest textAt)
    (events : List Event) :
    ∃ (later : Nat) (extended : Nat → Text),
      (watch.run events).Stamped uri opening later extended := by
  induction events generalizing watch latest textAt with
  | nil =>
      exact ⟨latest, textAt, stamped⟩
  | cons event rest inductionHypothesis =>
      obtain ⟨later, extended, next⟩ := stamped.step event
      exact inductionHypothesis next

/-- A change that a snapshot reports since another explains the two captured texts. -/
theorem explains_of_changeSince?
    {watch : Watch}
    {uri : Uri}
    {opening latest : Nat}
    {textAt : Nat → Text}
    (stamped : watch.Stamped uri opening latest textAt)
    {earlier snapshot : Snapshot}
    {change : ChangeRange}
    (earlierTaken : earlier ∈ watch.snapshots)
    (taken : snapshot ∈ watch.snapshots)
    (known : snapshot.changeSince? watch.document earlier.version = some change) :
    change.Explains earlier.text snapshot.text := by
  obtain ⟨-, -, -, earlierText⟩ := stamped.snapshots earlier earlierTaken
  obtain ⟨snapshotUri, snapshotOpening, -, snapshotText⟩ :=
    stamped.snapshots snapshot taken
  rw [← earlierText, ← snapshotText]
  cases alive : watch.document with
  | none =>
      rw [alive, Snapshot.changeSince?_none] at known
      split at known
      · rename_i sameVersion
        cases known
        rw [sameVersion]
        exact .unchanged _
      · cases known
  | some document =>
      obtain ⟨sameUri, sameOpening, -, follows⟩ := stamped.document document alive
      rw [alive,
        Snapshot.changeSince?_some (sameUri.trans snapshotUri.symm)
          (sameOpening.trans snapshotOpening.symm)] at known
      exact follows.recounts.explains_of_exactChangeBetween? known

/-- Exactly when a snapshot does not know its change since another. -/
theorem changeSince?_eq_none_iff
    {watch : Watch}
    {uri : Uri}
    {opening latest : Nat}
    {textAt : Nat → Text}
    (stamped : watch.Stamped uri opening latest textAt)
    {snapshot : Snapshot}
    (taken : snapshot ∈ watch.snapshots)
    (version : Nat) :
    snapshot.changeSince? watch.document version = none ↔
      version ≠ snapshot.version ∧
        (watch.document = none ∨
          snapshot.version < version ∨
          ∃ document,
            watch.document = some document ∧ version < document.history.baseVersion) := by
  obtain ⟨snapshotUri, snapshotOpening, past, -⟩ := stamped.snapshots snapshot taken
  cases alive : watch.document with
  | none =>
      simp [Snapshot.changeSince?_none]
  | some document =>
      obtain ⟨sameUri, sameOpening, atLatest, follows⟩ := stamped.document document alive
      rw [Snapshot.changeSince?_some (sameUri.trans snapshotUri.symm)
          (sameOpening.trans snapshotOpening.symm),
        Document.changeBetween?, ← Option.not_isSome_iff_eq_none,
        follows.recounts.exactChangeBetween?_isSome_iff, follows.currentVersion, atLatest]
      simp only [reduceCtorEq, Option.some.injEq, false_or, exists_eq_left']
      omega

end Stamped

end Watch

/--
Throughout a watch, whatever snapshot is planned for, however stale: nothing to
do means that its text is the one committed last; a range to do rebuilds its
text from the one committed last; and all is to be done exactly when nothing is
committed, or when the versions differ and the document is gone, the committed
version is the newer one, or the history no longer reaches back to it.
-/
theorem plan_of_run
    {uri : Uri}
    {opening : Nat}
    {initial : Text}
    {limit : Option Nat}
    {events : List Event}
    {snapshot : Snapshot}
    (taken : snapshot ∈ ((Watch.start uri opening initial limit).run events).snapshots) :
    let watch := (Watch.start uri opening initial limit).run events
    (∀ committed, watch.committed = some committed →
      (watch.plan snapshot = .upToDate → snapshot.text = committed.text) ∧
        ∀ change, watch.plan snapshot = .incremental change →
          change.rebuild? committed.text snapshot.text = some snapshot.text) ∧
      (watch.plan snapshot = .full ↔
        watch.committed = none ∨
          ∃ committed, watch.committed = some committed ∧
            committed.version ≠ snapshot.version ∧
            (watch.document = none ∨
              snapshot.version < committed.version ∨
              ∃ document,
                watch.document = some document ∧
                  committed.version < document.history.baseVersion)) := by
  intro watch
  obtain ⟨latest, textAt, stamped⟩ :=
    (Watch.Stamped.start uri opening initial limit).run events
  refine ⟨?_, ?_⟩
  · intro committed last
    have analysed := stamped.analysed
    rw [last, Option.map_some] at analysed
    constructor
    · intro idle
      obtain ⟨version, change, sameVersion, known, unchanged⟩ :=
        (Cursor.plan_eq_upToDate_iff _ _ _).mp idle
      obtain rfl := Option.some.inj (analysed.symm.trans sameVersion)
      exact ((stamped.explains_of_changeSince? (stamped.committed committed last) taken
        known).eq_of_isUnchanged unchanged).symm
    · intro change incremental
      obtain ⟨version, sameVersion, known, -⟩ :=
        (Cursor.plan_eq_incremental_iff _ _ _ _).mp incremental
      obtain rfl := Option.some.inj (analysed.symm.trans sameVersion)
      exact (stamped.explains_of_changeSince? (stamped.committed committed last) taken
        known).2
  · rw [Watch.plan, Cursor.plan_eq_full_iff, stamped.analysed]
    simp only [Option.map_eq_none_iff, Option.map_eq_some_iff]
    constructor
    · rintro (nothing | ⟨-, ⟨committed, last, rfl⟩, unknown⟩)
      · exact .inl nothing
      · exact .inr ⟨committed, last, (stamped.changeSince?_eq_none_iff taken _).mp unknown⟩
    · rintro (nothing | ⟨committed, last, because⟩)
      · exact .inl nothing
      · exact .inr ⟨committed.version, ⟨committed, last, rfl⟩,
          (stamped.changeSince?_eq_none_iff taken _).mpr because⟩

/-- A stale snapshot is planned from the one committed, though the document has moved on. -/
theorem plan_of_stale_snapshot :
    let watch :=
      (Watch.start .untitled 1 ['a', 'b'] (some 2)).run
        [.captured, .revised (.edit 1 1 ['é']), .captured, .committed 0,
          .revised (.edit 0 1 [])]
    let committed : Snapshot := ⟨.untitled, 1, 1, ['a', 'b']⟩
    let snapshot : Snapshot := ⟨.untitled, 1, 2, ['a', 'é', 'b']⟩
    let change : ChangeRange := ⟨⟨1, 1⟩, 2⟩
    snapshot ∈ watch.snapshots ∧
      watch.committed = some committed ∧
      watch.plan snapshot = .incremental change ∧
      change.rebuild? committed.text snapshot.text = some snapshot.text := by
  intro watch committed snapshot change
  have taken : snapshot ∈ watch.snapshots := by
    simp only [watch, snapshot]
    decide
  have last : watch.committed = some committed := by
    simp only [watch, committed]
    decide
  have incremental : watch.plan snapshot = .incremental change := by
    simp only [watch, snapshot, change]
    decide
  exact ⟨taken, last, incremental, ((plan_of_run taken).1 committed last).2 change incremental⟩

end Analysis

end VersionedText
