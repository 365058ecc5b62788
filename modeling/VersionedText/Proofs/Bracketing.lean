import Mathlib.Data.Nat.PSub
import VersionedText.ChangeRange

namespace VersionedText.ChangeRange

/-!
# The bracketing of a chain

A chain of changes is collapsed from the oldest on, but nothing depends on that.
A change is determined by three bounds: where it starts, where its span stops in
the old text and where its replacement stops in the new one.  Composition takes
the smaller start, and of the two bounds in the text between them it carries on
what one overhangs the other.  So it is associative, adds up the growth of the
text, keeps spans in order and never takes a greater number from a smaller one.
Every bracketing of a chain has the same net effect, and a chain may be
collapsed in pieces, as long as no piece is empty.
-/

/-- A change is determined by its start and by where its two spans stop. -/
theorem eq_of_bounds
    {first second : ChangeRange}
    (start : first.span.start = second.span.start)
    (stop : first.span.stop = second.span.stop)
    (newStop : first.newSpan.stop = second.newSpan.stop) :
    first = second := by
  rcases first with ⟨⟨firstStart, firstStop⟩, firstLength⟩
  rcases second with ⟨⟨secondStart, secondStop⟩, secondLength⟩
  simp only [newSpan] at start stop newStop
  obtain rfl := start
  obtain rfl := stop
  obtain rfl := Nat.add_left_cancel newStop
  rfl

/--
The law of overhangs, which composition obeys in the oldest text and, read
backwards, in the newest.  A span that reaches beyond a replacement overhangs it,
and what overhangs later is added to that.  A span that does not leaves a rest of
the replacement, and what overhangs later has to reach beyond this rest as well.
-/
theorem overhang_assoc (replaced spanned laterReplaced laterSpanned : Nat) :
    spanned - replaced + (laterSpanned - (laterReplaced + (replaced - spanned))) =
      spanned + (laterSpanned - laterReplaced) - replaced := by
  rcases Nat.le_total replaced spanned with overhung | left
  · rw [Nat.sub_eq_zero_of_le overhung, Nat.add_zero, Nat.sub_add_comm overhung]
  · obtain ⟨rest, rfl⟩ := Nat.exists_eq_add_of_le left
    rw [Nat.sub_eq_zero_of_le left, Nat.zero_add, Nat.add_sub_cancel_left, Nat.sub_add_eq,
      Nat.add_sub_add_left]

section Bounds

variable (first second : ChangeRange)

theorem start_compose :
    (first.compose second).span.start = min first.span.start second.span.start :=
  rfl

/-- What the second span overhangs is text that the first change left alone. -/
theorem stop_compose :
    (first.compose second).span.stop =
      first.span.stop + (second.span.stop - first.newSpan.stop) :=
  rfl

theorem min_start_le_newStop :
    min first.span.start second.span.start ≤
      second.newSpan.stop + (first.newSpan.stop - second.span.stop) :=
  calc
    min first.span.start second.span.start ≤ second.span.start := Nat.min_le_right _ _
    _ ≤ second.newSpan.stop := Nat.le_add_right _ _
    _ ≤ second.newSpan.stop + (first.newSpan.stop - second.span.stop) := Nat.le_add_right _ _

/-- What the first replacement overhangs is text that the second change left alone. -/
theorem newStop_compose :
    (first.compose second).newSpan.stop =
      second.newSpan.stop + (first.newSpan.stop - second.span.stop) :=
  Nat.add_sub_cancel' (min_start_le_newStop first second)

theorem lengthDelta_eq (change : ChangeRange) :
    change.lengthDelta = (change.newSpan.stop : Int) - change.span.stop := by
  simp only [lengthDelta, newSpan]
  omega

/-- A text grows by a change and another as it grows by their composition. -/
theorem lengthDelta_compose :
    (first.compose second).lengthDelta = first.lengthDelta + second.lengthDelta := by
  simp only [lengthDelta_eq, stop_compose, newStop_compose]
  omega

/-- Composition keeps spans in order. -/
theorem ordered_compose
    {first : ChangeRange}
    (ordered : first.span.Ordered)
    (second : ChangeRange) :
    (first.compose second).span.Ordered :=
  calc
    min first.span.start second.span.start ≤ first.span.start := Nat.min_le_left _ _
    _ ≤ first.span.stop := ordered
    _ ≤ first.span.stop + (second.span.stop - first.newSpan.stop) := Nat.le_add_right _ _

/--
Composition is associative: what overhangs is the same whichever two are composed
first.  Read backwards, spans and replacements change places in this.
-/
theorem compose_assoc (third : ChangeRange) :
    (first.compose second).compose third = first.compose (second.compose third) := by
  apply eq_of_bounds
  · simp only [start_compose, Nat.min_assoc]
  · simp only [stop_compose, newStop_compose, Nat.add_assoc, overhang_assoc]
  · simp only [stop_compose, newStop_compose, Nat.add_assoc, overhang_assoc]

end Bounds

instance : Std.Associative compose :=
  ⟨compose_assoc⟩

section Checked

/--
The composition, with its only difference that is not meant to stop at zero
checked, and the order of the span that it builds.
-/
def compose? (first second : ChangeRange) : Option ChangeRange := do
  let start := min first.span.start second.span.start
  let oldStop := first.span.stop + (second.span.stop - first.newSpan.stop)
  let newStop := second.newSpan.stop + (first.newSpan.stop - second.span.stop)
  let newLength ← newStop.psub start
  if start ≤ oldStop then some ⟨⟨start, oldStop⟩, newLength⟩ else none

/-- No check fails when an ordered change is composed with another. -/
theorem compose?_eq
    {first : ChangeRange}
    (ordered : first.span.Ordered)
    (second : ChangeRange) :
    compose? first second = some (first.compose second) := by
  have newLength := Nat.psub_eq_some.mpr (Nat.sub_add_cancel (min_start_le_newStop first second))
  have inOrder :
      min first.span.start second.span.start ≤
        first.span.stop + (second.span.stop - first.newSpan.stop) :=
    ordered_compose ordered second
  simp only [compose?, newLength, Option.bind_eq_bind, Option.bind_some, if_pos inOrder]
  rfl

end Checked

section Chains

variable {changes earlier later : List ChangeRange}

theorem ordered_foldl_compose
    {first : ChangeRange}
    (ordered : first.span.Ordered)
    (later : List ChangeRange) :
    (later.foldl compose first).span.Ordered := by
  induction later generalizing first with
  | nil =>
      exact ordered
  | cons second later inductionHypothesis =>
      exact inductionHypothesis (ordered_compose ordered second)

theorem ordered_collapse
    (ordered : ∀ change ∈ changes, change.span.Ordered) :
    (collapse changes).span.Ordered := by
  cases changes with
  | nil =>
      exact Nat.le_refl 0
  | cons first later =>
      exact ordered_foldl_compose (ordered first List.mem_cons_self) later

/-- A chain may be collapsed in two pieces. -/
theorem collapse_append
    (earlierOccupied : earlier ≠ [])
    (laterOccupied : later ≠ []) :
    collapse (earlier ++ later) = (collapse earlier).compose (collapse later) := by
  obtain ⟨first, rest, rfl⟩ := List.exists_cons_of_ne_nil earlierOccupied
  obtain ⟨next, more, rfl⟩ := List.exists_cons_of_ne_nil laterOccupied
  calc
    collapse (first :: rest ++ next :: more) =
        (next :: more).foldl compose (rest.foldl compose first) := List.foldl_append
    _ = more.foldl compose ((collapse (first :: rest)).compose next) := rfl
    _ = (collapse (first :: rest)).compose (collapse (next :: more)) := List.foldl_assoc

theorem collapse_cons
    (first : ChangeRange)
    (laterOccupied : later ≠ []) :
    collapse (first :: later) = first.compose (collapse later) :=
  collapse_append (List.cons_ne_nil first []) laterOccupied

/-- The growth that a chain makes is that of its first change and that of the others. -/
theorem lengthDelta_collapse_cons
    (first : ChangeRange)
    (later : List ChangeRange) :
    (collapse (first :: later)).lengthDelta =
      first.lengthDelta + (collapse later).lengthDelta := by
  cases later with
  | nil =>
      exact (Int.add_zero first.lengthDelta).symm
  | cons second rest =>
      rw [collapse_cons first (List.cons_ne_nil second rest), lengthDelta_compose]

/-- Bracketing a chain from the right changes nothing. -/
theorem collapseRight?_eq (occupied : changes ≠ []) :
    collapseRight? changes = some (collapse changes) := by
  induction changes with
  | nil =>
      exact absurd rfl occupied
  | cons first later inductionHypothesis =>
      cases later with
      | nil =>
          rfl
      | cons second rest =>
          have laterOccupied := List.cons_ne_nil second rest
          rw [collapseRight?, inductionHypothesis laterOccupied, collapse_cons first laterOccupied]

end Chains

/-- A way to compose a nonempty chain of changes. -/
inductive Bracketing where
  | single (change : ChangeRange)
  | pair (earlier later : Bracketing)
  deriving Repr, DecidableEq

namespace Bracketing

/-- The chain that is bracketed, oldest first. -/
def changes : Bracketing → List ChangeRange
  | single change => [change]
  | pair earlier later => earlier.changes ++ later.changes

/-- What the compositions come to, each carried out where the brackets have it. -/
def net : Bracketing → ChangeRange
  | single change => change
  | pair earlier later => earlier.net.compose later.net

theorem changes_ne_nil (bracketing : Bracketing) : bracketing.changes ≠ [] := by
  induction bracketing with
  | single change =>
      exact List.cons_ne_nil change []
  | pair earlier later earlierOccupied _ =>
      exact List.append_ne_nil_of_left_ne_nil earlierOccupied later.changes

/-- Every bracketing comes to the collapse of its chain. -/
theorem net_eq_collapse (bracketing : Bracketing) :
    bracketing.net = collapse bracketing.changes := by
  induction bracketing with
  | single change =>
      rfl
  | pair earlier later earlierNet laterNet =>
      rw [net, changes, collapse_append earlier.changes_ne_nil later.changes_ne_nil, earlierNet,
        laterNet]

end Bracketing

/--
The laws of composition.  No check fails in it, spans stay in order, growth adds
up and brackets do not matter: to three changes, to a chain bracketed in any way
or from the right, or to a chain in two pieces.  The pieces have to be occupied,
because the change that stands for none is not neutral on either side.
-/
theorem compose_laws :
    (∀ first second : ChangeRange,
      first.span.Ordered →
      second.span.Ordered →
      compose? first second = some (first.compose second) ∧
        (first.compose second).span.Ordered ∧
        (first.compose second).lengthDelta = first.lengthDelta + second.lengthDelta) ∧
      (∀ first second third : ChangeRange,
        (first.compose second).compose third = first.compose (second.compose third)) ∧
      (∀ bracketing : Bracketing, bracketing.net = collapse bracketing.changes) ∧
      (∀ changes : List ChangeRange,
        changes ≠ [] →
        collapseRight? changes = some (collapse changes)) ∧
      (∀ earlier later : List ChangeRange,
        earlier ≠ [] →
        later ≠ [] →
        collapse (earlier ++ later) = (collapse earlier).compose (collapse later)) ∧
      ∃ change : ChangeRange,
        change.span.Ordered ∧
          unchanged.compose change ≠ change ∧
          change.compose unchanged ≠ change := by
  refine ⟨?_, compose_assoc, Bracketing.net_eq_collapse, ?_, ?_, ⟨⟨1, 1⟩, 1⟩, by decide⟩
  · intro first second ordered _
    exact ⟨compose?_eq ordered second, ordered_compose ordered second,
      lengthDelta_compose first second⟩
  · intro changes occupied
    exact collapseRight?_eq occupied
  · intro earlier later earlierOccupied laterOccupied
    exact collapse_append earlierOccupied laterOccupied

/-- Three changes that overlap, in both brackets, from the right and in two pieces. -/
theorem compose_laws_overlapping :
    let first : ChangeRange := ⟨⟨4, 6⟩, 1⟩
    let second : ChangeRange := ⟨⟨0, 5⟩, 3⟩
    let third : ChangeRange := ⟨⟨2, 9⟩, 0⟩
    let bracketing : Bracketing := .pair (.single first) (.pair (.single second) (.single third))
    (first.span.Ordered ∧ second.span.Ordered) ∧
      compose? first second = some ⟨⟨0, 6⟩, 3⟩ ∧
      bracketing.net = ⟨⟨0, 12⟩, 2⟩ ∧
      collapseRight? [first, second, third] = some ⟨⟨0, 12⟩, 2⟩ ∧
      collapse ([first, second] ++ [third]) =
        (collapse [first, second]).compose (collapse [third]) := by
  intro first second third bracketing
  obtain ⟨composed, -, bracketed, fromRight, inPieces, -⟩ := compose_laws
  have firstOrdered : first.span.Ordered := by decide
  have secondOrdered : second.span.Ordered := by decide
  exact
    ⟨⟨firstOrdered, secondOrdered⟩, (composed first second firstOrdered secondOrdered).1,
      bracketed bracketing,
      fromRight [first, second, third] (List.cons_ne_nil _ _),
      inPieces [first, second] [third] (List.cons_ne_nil _ _) (List.cons_ne_nil _ _)⟩

end VersionedText.ChangeRange
