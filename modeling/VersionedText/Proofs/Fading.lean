import VersionedText.Snapshot
import VersionedText.Proofs.Revision
import VersionedText.Proofs.Window

namespace VersionedText

/-!
# What a snapshot knows fades

A snapshot asks the history of its document, which goes on changing after the
capture: it grows, forgets, starts again, and ends with the document.  None of
this can alter an answer.  What the snapshot knew of its changes at one moment
is known at a later moment unaltered or not at all, and what it did not know it
never comes to know.  The same holds of a question that got hold of the history
in time and reads it only after the document was dropped.
-/

/-- Of what was known earlier, the same or nothing is known later. -/
def Fades (earlier later : Option α) : Prop :=
  later = earlier ∨ later = none

namespace Fades

theorem refl (known : Option α) : Fades known known :=
  .inl rfl

theorem trans
    {first second third : Option α}
    (soon : Fades first second)
    (late : Fades second third) :
    Fades first third := by
  rcases late with rfl | lost
  · exact soon
  · exact .inr lost

end Fades

/-- After an edit a history knows of the versions so far what it knew, or nothing. -/
theorem History.fades_push
    {history : History}
    {old new : Nat}
    (past : new ≤ history.currentVersion)
    (record : EditRecord) :
    Fades (history.exactChangeBetween? old new)
      ((history.push record).exactChangeBetween? old new) := by
  rw [exactChangeBetween?, exactChangeBetween?, changeBetweenBy?_push _ _ past]
  split
  · exact .refl _
  · exact .inr rfl

/-- A history that starts again at a later version knows nothing of the versions so far. -/
theorem History.fades_reset
    {history : History}
    {old new version : Nat}
    (past : new < version)
    (length : Nat) :
    Fades (history.exactChangeBetween? old new)
      ((history.reset version length).exactChangeBetween? old new) := by
  by_cases same : old = new
  · rw [exactChangeBetween?, exactChangeBetween?, same, changeBetweenBy?_self,
      changeBetweenBy?_self]
    exact .refl _
  · rcases Nat.lt_or_ge new old with backwards | inOrder
    · exact .inr (changeBetweenBy?_of_lt backwards)
    · exact .inr (changeBetweenBy?_of_lt_baseVersion same (Nat.lt_of_le_of_lt inOrder past))

namespace Document

/-- A call alters nothing that a document knows of the versions so far. -/
theorem fades_revise
    {document : Document}
    {old new : Nat}
    (current : document.history.currentVersion = document.version)
    (past : new ≤ document.version)
    (revision : Revision) :
    Fades (document.changeBetween? old new)
      ((document.revise revision).changeBetween? old new) := by
  cases revision with
  | edit start stop inserted =>
      simp only [revise, attempt]
      split
      · rename_i edited accepted
        obtain ⟨-, rfl⟩ := (edit_eq_ok_iff _ _ _ _ _).mp accepted
        exact History.fades_push (current ▸ past) _
      · exact .refl _
  | replacement text =>
      by_cases same : document.content = text
      · simp only [revise, replaceContent, if_pos same]
        exact .refl _
      · simp only [revise, replaceContent, if_neg same]
        exact History.fades_reset (Nat.lt_succ_of_le past) _

end Document

/-- What can happen to a document. -/
inductive Happening where
  | revised (revision : Revision)
  | dropped
  deriving Repr, DecidableEq

/-- A document from some moment on, beyond its end. -/
structure Lifetime where
  /-- The document as it is or, once it was dropped, as it was then. -/
  document : Document
  isAlive : Bool

namespace Lifetime

/-- The document that is there to be asked. -/
def current (lifetime : Lifetime) : Option Document :=
  if lifetime.isAlive then some lifetime.document else none

/-- What happens changes a document only as long as it lives. -/
def step (lifetime : Lifetime) : Happening → Lifetime
  | .revised revision =>
      if lifetime.isAlive then
        { lifetime with document := lifetime.document.revise revision }
      else
        lifetime
  | .dropped => { lifetime with isAlive := false }

/-- The lifetime after all that happens, one after the other. -/
def run (lifetime : Lifetime) (happenings : List Happening) : Lifetime :=
  happenings.foldl step lifetime

/-- The snapshot was taken of this document, now or at an earlier version. -/
structure Yielded (lifetime : Lifetime) (snapshot : Snapshot) : Prop where
  sameUri : lifetime.document.uri = snapshot.uri
  sameOpening : lifetime.document.opening = snapshot.opening
  past : snapshot.version ≤ lifetime.document.version
  follows : ∃ textAt : Nat → Text, lifetime.document.Follows textAt

namespace Yielded

theorem step
    {lifetime : Lifetime}
    {snapshot : Snapshot}
    (yielded : lifetime.Yielded snapshot)
    (happening : Happening) :
    (lifetime.step happening).Yielded snapshot := by
  cases happening with
  | revised revision =>
      rw [Lifetime.step]
      split
      · obtain ⟨textAt, follows⟩ := yielded.follows
        obtain ⟨keptUri, keptOpening⟩ := lifetime.document.source_revise revision
        exact
          { sameUri := keptUri.trans yielded.sameUri
            sameOpening := keptOpening.trans yielded.sameOpening
            past := Nat.le_trans yielded.past (lifetime.document.version_le_revise revision)
            follows := ⟨_, follows.revise revision⟩ }
      · exact yielded
  | dropped =>
      exact { yielded with }

theorem run
    {lifetime : Lifetime}
    {snapshot : Snapshot}
    (yielded : lifetime.Yielded snapshot)
    (happenings : List Happening) :
    (lifetime.run happenings).Yielded snapshot := by
  induction happenings generalizing lifetime with
  | nil =>
      exact yielded
  | cons happening later inductionHypothesis =>
      exact inductionHypothesis (yielded.step happening)

/-- What a snapshot is answered. -/
theorem changeSince?_current
    {lifetime : Lifetime}
    {snapshot : Snapshot}
    (yielded : lifetime.Yielded snapshot)
    (version : Nat) :
    snapshot.changeSince? lifetime.current version =
      if version = snapshot.version then
        some .unchanged
      else if lifetime.isAlive then
        lifetime.document.changeBetween? version snapshot.version
      else
        none := by
  by_cases same : version = snapshot.version
  · rw [Snapshot.changeSince?, if_pos same, if_pos same]
  · rw [if_neg same, current]
    split
    · exact Snapshot.changeSince?_some yielded.sameUri yielded.sameOpening version
    · rw [Snapshot.changeSince?_none, if_neg same]

end Yielded

/-- What happens alters nothing that the history knows of the versions so far. -/
theorem fades_step
    {lifetime : Lifetime}
    {snapshot : Snapshot}
    (yielded : lifetime.Yielded snapshot)
    (happening : Happening)
    (version : Nat) :
    Fades (lifetime.document.changeBetween? version snapshot.version)
      ((lifetime.step happening).document.changeBetween? version snapshot.version) := by
  cases happening with
  | revised revision =>
      rw [step]
      split
      · obtain ⟨textAt, follows⟩ := yielded.follows
        exact Document.fades_revise follows.currentVersion yielded.past revision
      · exact .refl _
  | dropped =>
      exact .refl _

theorem fades_run
    {lifetime : Lifetime}
    {snapshot : Snapshot}
    (yielded : lifetime.Yielded snapshot)
    (happenings : List Happening)
    (version : Nat) :
    Fades (lifetime.document.changeBetween? version snapshot.version)
      ((lifetime.run happenings).document.changeBetween? version snapshot.version) := by
  induction happenings generalizing lifetime with
  | nil =>
      exact .refl _
  | cons happening later inductionHypothesis =>
      exact (fades_step yielded happening version).trans
        (inductionHypothesis (yielded.step happening))

/-- What has been dropped does not come back to life. -/
theorem isAlive_of_run
    {lifetime : Lifetime}
    {happenings : List Happening}
    (alive : (lifetime.run happenings).isAlive = true) :
    lifetime.isAlive = true := by
  induction happenings generalizing lifetime with
  | nil =>
      exact alive
  | cons happening later inductionHypothesis =>
      have next := inductionHypothesis alive
      cases happening with
      | revised revision =>
          rw [step] at next
          split at next
          · exact next
          · exact next
      | dropped =>
          cases next

/-- Whatever happens after a moment, the answers to a snapshot fade from then on. -/
theorem fades_changeSince?
    {lifetime : Lifetime}
    {snapshot : Snapshot}
    (yielded : lifetime.Yielded snapshot)
    (happenings : List Happening)
    (version : Nat) :
    Fades (snapshot.changeSince? lifetime.current version)
      (snapshot.changeSince? (lifetime.run happenings).current version) := by
  rw [yielded.changeSince?_current, (yielded.run happenings).changeSince?_current]
  by_cases same : version = snapshot.version
  · rw [if_pos same, if_pos same]
    exact .refl _
  · rw [if_neg same, if_neg same]
    by_cases alive : (lifetime.run happenings).isAlive = true
    · rw [if_pos alive, if_pos (isAlive_of_run alive)]
      exact fades_run yielded happenings version
    · rw [if_neg alive]
      exact .inr rfl

end Lifetime

/--
A snapshot is taken of a document with any past, and more happens to the
document, first up to one moment and then up to a later one.  A change that was
known at the first moment is known unaltered at the second, or not at all; one
that was not known never is again; and that a version has not changed since
itself is known throughout.  Whoever still holds the history at the second
moment, with the document already dropped or not, reads the change as it was
known at the capture, or none.
-/
theorem changeSince?_fades
    (uri : Uri)
    (opening : Nat)
    (initial : Text)
    (limit : Option Nat)
    (revisions : List Revision)
    (first second : List Happening)
    (version : Nat) :
    let captured := (Document.create uri opening initial limit).reviseAll revisions
    let snapshot := captured.snapshot
    let soon := Lifetime.run ⟨captured, true⟩ first
    let late := soon.run second
    (∀ change,
      snapshot.changeSince? soon.current version = some change →
        snapshot.changeSince? late.current version = some change ∨
          snapshot.changeSince? late.current version = none) ∧
      (snapshot.changeSince? soon.current version = none →
        snapshot.changeSince? late.current version = none) ∧
      snapshot.changeSince? late.current snapshot.version = some .unchanged ∧
      (late.document.changeBetween? version snapshot.version =
          snapshot.changeSince? (some captured) version ∨
        late.document.changeBetween? version snapshot.version = none) := by
  intro captured snapshot soon late
  obtain ⟨textAt, follows, -, -⟩ :=
    (Document.Follows.create uri opening initial limit).reviseAll revisions
  have yielded : Lifetime.Yielded ⟨captured, true⟩ snapshot :=
    { sameUri := rfl
      sameOpening := rfl
      past := Nat.le_refl _
      follows := ⟨textAt, follows⟩ }
  have fades := Lifetime.fades_changeSince? (yielded.run first) second version
  have held := (Lifetime.fades_run yielded first version).trans
    (Lifetime.fades_run (yielded.run first) second version)
  refine ⟨?_, ?_, ?_, ?_⟩
  · intro change known
    rw [← known]
    exact fades
  · intro unknown
    rcases fades with same | lost
    · exact same.trans unknown
    · exact lost
  · rw [Snapshot.changeSince?, if_pos rfl]
  · rw [Snapshot.changeSince?_some rfl rfl]
    exact held

/-- Limited to two edits, a snapshot goes on knowing a change through one edit and loses it at the next. -/
example :
    let captured :=
      (Document.create .untitled 1 ['a', 'b'] (some 2)).reviseAll [.edit 1 1 ['é']]
    let soon := Lifetime.run ⟨captured, true⟩ [.revised (.edit 0 0 ['x'])]
    let late := soon.run [.revised (.edit 0 1 [])]
    captured.snapshot.changeSince? soon.current 1 = some ⟨⟨1, 1⟩, 2⟩ ∧
      captured.snapshot.changeSince? late.current 1 = none := by
  decide

end VersionedText
