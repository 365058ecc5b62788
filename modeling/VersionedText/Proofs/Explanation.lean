import VersionedText.ChangeRange
import VersionedText.Proofs.Cut

namespace VersionedText

/-!
# Changes that explain texts

A change explains how a new text came from an old one when its span is in order
and rebuilding from it gives the new text.  Then both texts have the same parts
before and behind the change, and what the change counts are the sizes of the
parts that differ.  Explanations compose, so the collapse of a chain explains
what the whole chain did.
-/

namespace Text

/-- Two leading parts of one text share the shorter of them. -/
private theorem exists_common_head
    {first second firstRest secondRest : Text}
    (same : first ++ firstRest = second ++ secondRest) :
    ∃ head firstMore secondMore,
      first = head ++ firstMore ∧ second = head ++ secondMore ∧
        (firstMore = [] ∨ secondMore = []) := by
  rcases List.append_eq_append_iff.mp same with
      ⟨more, secondShape, -⟩ | ⟨more, firstShape, -⟩
  · exact ⟨first, [], more, by simp, secondShape, .inl rfl⟩
  · exact ⟨second, more, [], firstShape, by simp, .inr rfl⟩

/-- Two final parts of one text share the shorter of them. -/
private theorem exists_common_tail
    {first second firstTail secondTail : Text}
    (same : first ++ firstTail = second ++ secondTail) :
    ∃ tail firstMore secondMore,
      firstTail = firstMore ++ tail ∧ secondTail = secondMore ++ tail ∧
        first ++ firstMore = second ++ secondMore ∧
        (firstMore = [] ∨ secondMore = []) := by
  rcases List.append_eq_append_iff.mp same with
      ⟨more, secondShape, tailShape⟩ | ⟨more, firstShape, tailShape⟩
  · exact ⟨secondTail, more, [], tailShape, by simp, by simpa using secondShape.symm,
      .inr rfl⟩
  · exact ⟨firstTail, [], more, by simp, tailShape, by simpa using firstShape,
      .inl rfl⟩

end Text

namespace ChangeRange

/-- The change is in order and rebuilds the new text from the old one. -/
def Explains (change : ChangeRange) (old new : Text) : Prop :=
  change.span.Ordered ∧ change.rebuild? old new = some new

/-- The parts that an explained pair of texts shares, and those in which it differs. -/
theorem explains_iff_parts
    (change : ChangeRange)
    (old new : Text) :
    change.Explains old new ↔
      ∃ head removed inserted tail : Text,
        old = head ++ removed ++ tail ∧
          new = head ++ inserted ++ tail ∧
          change = ⟨⟨head.size, head.size + removed.size⟩, inserted.size⟩ := by
  rcases change with ⟨⟨start, stop⟩, newLength⟩
  constructor
  · rintro ⟨ordered, rebuilt⟩
    simp only [rebuild?, Option.bind_eq_bind, Option.bind_eq_some_iff,
      Option.pure_def, Option.some.injEq] at rebuilt
    obtain ⟨head, headCut, inserted, insertedCut, tail, tailCut, newShape⟩ := rebuilt
    obtain ⟨behindStart, oldAtStart, rfl⟩ := Text.upTo?_eq_some_iff.mp headCut
    obtain ⟨untilStop, oldAtStop, rfl⟩ := Text.onward?_eq_some_iff.mp tailCut
    obtain ⟨newHead, newTail, -, newHeadSize, insertedStop⟩ :=
      Text.slice?_eq_some_iff.mp insertedCut
    obtain ⟨removed, rfl, -⟩ :=
      Text.exists_append_of_size_le (oldAtStart.symm.trans oldAtStop) ordered
    have insertedSize : inserted.size = newLength := by
      simp only [newSpan] at newHeadSize insertedStop
      omega
    exact ⟨head, removed, inserted, tail, oldAtStop, newShape.symm, by
      rw [Text.size_append, insertedSize]⟩
  · rintro ⟨head, removed, inserted, tail, rfl, rfl, change⟩
    obtain ⟨⟨rfl, rfl⟩, rfl⟩ := by simpa using change
    refine ⟨Nat.le_add_right _ _, ?_⟩
    have headCut :
        (head ++ removed ++ tail).upTo? head.size = some head :=
      Text.upTo?_eq_some_iff.mpr ⟨removed ++ tail, by simp, rfl⟩
    have insertedCut :
        (head ++ inserted ++ tail).slice? head.size (head.size + inserted.size) =
          some inserted :=
      Text.slice?_eq_some_iff.mpr ⟨head, tail, rfl, rfl, rfl⟩
    have tailCut :
        (head ++ removed ++ tail).onward? (head.size + removed.size) = some tail :=
      Text.onward?_eq_some_iff.mpr ⟨head ++ removed, rfl, by simp⟩
    simp only [rebuild?, newSpan, headCut, insertedCut, tailCut, Option.bind_eq_bind,
      Option.bind_some, Option.pure_def]

namespace Explains

/-- No change explains a text by itself. -/
theorem unchanged (text : Text) : ChangeRange.unchanged.Explains text text := by
  rw [explains_iff_parts]
  exact ⟨[], [], [], text, rfl, rfl, rfl⟩

/-- Text that a change marks as unchanged is the same. -/
theorem eq_of_isUnchanged
    {change : ChangeRange}
    {old new : Text}
    (explains : change.Explains old new)
    (unchanged : change.isUnchanged = true) :
    old = new := by
  obtain ⟨head, removed, inserted, tail, rfl, rfl, rfl⟩ :=
    (explains_iff_parts _ _ _).mp explains
  simp only [isUnchanged, Span.isEmpty, Bool.and_eq_true, beq_iff_eq] at unchanged
  have nothingRemoved : removed = [] := by
    rw [← Text.size_eq_zero_iff]
    omega
  have nothingInserted : inserted = [] := by
    rw [← Text.size_eq_zero_iff]
    exact unchanged.2
  rw [nothingRemoved, nothingInserted]

/-- Every cut that an explanation makes lies on a boundary of its text. -/
theorem isBoundary
    {change : ChangeRange}
    {old new : Text}
    (explains : change.Explains old new) :
    (old.isBoundary change.span.start = true ∧ old.isBoundary change.span.stop = true) ∧
      new.isBoundary change.newSpan.start = true ∧
      new.isBoundary change.newSpan.stop = true := by
  obtain ⟨head, removed, inserted, tail, rfl, rfl, rfl⟩ :=
    (explains_iff_parts _ _ _).mp explains
  exact ⟨Text.isBoundary_inner head removed tail, Text.isBoundary_inner head inserted tail⟩

/--
A change followed by another is explained by their composition.  The two share
what lies before both of them and what lies behind both of them; all that is
between belongs to the composed change.
-/
theorem compose
    {first second : ChangeRange}
    {old middle new : Text}
    (firstExplains : first.Explains old middle)
    (secondExplains : second.Explains middle new) :
    (first.compose second).Explains old new := by
  obtain ⟨firstHead, firstRemoved, firstInserted, firstTail, rfl, rfl, rfl⟩ :=
    (explains_iff_parts _ _ _).mp firstExplains
  obtain ⟨secondHead, secondRemoved, secondInserted, secondTail, middleShape, rfl, rfl⟩ :=
    (explains_iff_parts _ _ _).mp secondExplains
  have sameMiddle :
      firstHead ++ (firstInserted ++ firstTail) =
        secondHead ++ (secondRemoved ++ secondTail) := by
    simpa only [List.append_assoc] using middleShape
  obtain ⟨head, firstBefore, secondBefore, rfl, rfl, beforeEmpty⟩ :=
    Text.exists_common_head sameMiddle
  obtain ⟨tail, firstBehind, secondBehind, rfl, rfl, untilTail, behindEmpty⟩ :=
    Text.exists_common_tail middleShape
  have sizes := congrArg Text.size untilTail
  simp only [Text.size_append] at sizes
  have beforeSize : firstBefore.size = 0 ∨ secondBefore.size = 0 := by
    simpa using beforeEmpty
  have behindSize : firstBehind.size = 0 ∨ secondBehind.size = 0 := by
    simpa using behindEmpty
  rw [explains_iff_parts]
  refine ⟨head, firstBefore ++ firstRemoved ++ firstBehind,
    secondBefore ++ secondInserted ++ secondBehind, tail, by simp, by simp, ?_⟩
  simp only [ChangeRange.compose, newSpan, Text.size_append, ChangeRange.mk.injEq,
    Span.mk.injEq]
  omega

end Explains

/-- Changes that lead from one text to another, each explaining one step. -/
inductive Chain : Text → List ChangeRange → Text → Prop where
  | nil (text : Text) : Chain text [] text
  | cons
      {old middle new : Text}
      {first : ChangeRange}
      {later : List ChangeRange} :
      first.Explains old middle →
      Chain middle later new →
      Chain old (first :: later) new

namespace Chain

/-- What explains the beginning explains the whole once the chain is folded in. -/
theorem foldl_compose
    {old middle new : Text}
    {first : ChangeRange}
    {later : List ChangeRange}
    (explains : first.Explains old middle)
    (chain : Chain middle later new) :
    (later.foldl ChangeRange.compose first).Explains old new := by
  induction chain generalizing first with
  | nil text =>
      exact explains
  | cons secondExplains _ inductionHypothesis =>
      exact inductionHypothesis (explains.compose secondExplains)

/-- The collapse of a chain explains what the whole chain did. -/
theorem collapse
    {old new : Text}
    {changes : List ChangeRange}
    (chain : Chain old changes new) :
    (ChangeRange.collapse changes).Explains old new := by
  cases chain with
  | nil text =>
      exact Explains.unchanged old
  | cons firstExplains laterChain =>
      exact foldl_compose firstExplains laterChain

/-- Changes that each explain the step from one text of a sequence to the next are a chain. -/
theorem of_steps
    {textAt : Nat → Text}
    {start : Nat}
    {changes : List ChangeRange}
    (steps :
      ∀ (index : Nat) (change : ChangeRange),
        changes[index]? = some change →
        change.Explains (textAt (start + index)) (textAt (start + index + 1))) :
    Chain (textAt start) changes (textAt (start + changes.length)) := by
  induction changes generalizing start with
  | nil =>
      exact .nil (textAt start)
  | cons first later inductionHypothesis =>
      have firstStep := steps 0 first rfl
      have laterSteps
          (index : Nat)
          (change : ChangeRange)
          (found : later[index]? = some change) :
          change.Explains (textAt (start + 1 + index)) (textAt (start + 1 + index + 1)) := by
        have step := steps (index + 1) change found
        rwa [← Nat.add_assoc, Nat.add_right_comm start index 1] at step
      have chain := inductionHypothesis laterSteps
      rw [Nat.add_right_comm, Nat.add_assoc] at chain
      exact .cons firstStep chain

end Chain

/--
Whatever the texts: where two changes explain one step each, their composition
explains both steps, and where the changes of a list explain the steps of a
sequence of texts, their collapse explains the way from the first to the last.
-/
theorem explains_collapse_of_steps :
    (∀ (first second : ChangeRange) (old middle new : Text),
      first.Explains old middle →
      second.Explains middle new →
      (first.compose second).Explains old new) ∧
      ∀ (changes : List ChangeRange) (textAt : Nat → Text),
        (∀ (index : Nat) (change : ChangeRange),
          changes[index]? = some change →
          change.Explains (textAt index) (textAt (index + 1))) →
        (collapse changes).Explains (textAt 0) (textAt changes.length) := by
  refine ⟨?_, ?_⟩
  · intro first second old middle new firstExplains secondExplains
    exact firstExplains.compose secondExplains
  · intro changes textAt steps
    have chain : Chain (textAt 0) changes (textAt (0 + changes.length)) := by
      apply Chain.of_steps
      intro index change found
      rw [Nat.zero_add]
      exact steps index change found
    rw [Nat.zero_add] at chain
    exact chain.collapse

instance (change : ChangeRange) (old new : Text) : Decidable (change.Explains old new) :=
  inferInstanceAs (Decidable (_ ∧ _))

/-- An insertion, a replacement that swallows it, and a deletion directly behind the replacement. -/
theorem explains_collapse_swallowing :
    let texts : List Text := [['h', 'é', '!'], ['h', '😀', 'é', '!'], ['ü', 'é', '!'], ['ü', '!']]
    let textAt (version : Nat) : Text := (texts[version]?).getD []
    let changes : List ChangeRange := [⟨⟨1, 1⟩, 4⟩, ⟨⟨0, 5⟩, 2⟩, ⟨⟨2, 4⟩, 0⟩]
    (∀ (index : Nat) (change : ChangeRange),
        changes[index]? = some change →
        change.Explains (textAt index) (textAt (index + 1))) ∧
      (compose ⟨⟨1, 1⟩, 4⟩ ⟨⟨0, 5⟩, 2⟩).Explains ['h', 'é', '!'] ['ü', 'é', '!'] ∧
      collapse changes = ⟨⟨0, 3⟩, 2⟩ ∧
      (collapse changes).Explains ['h', 'é', '!'] ['ü', '!'] := by
  intro texts textAt changes
  have steps (index : Nat) (change : ChangeRange) (found : changes[index]? = some change) :
      change.Explains (textAt index) (textAt (index + 1)) := by
    have inRange : index < 3 := (List.getElem?_eq_some_iff.mp found).1
    obtain rfl | rfl | rfl : index = 0 ∨ index = 1 ∨ index = 2 := by omega
    all_goals
      obtain rfl := Option.some.inj found
      decide
  obtain ⟨composed, collapsed⟩ := explains_collapse_of_steps
  exact
    ⟨steps, composed _ _ _ _ _ (steps 0 _ rfl) (steps 1 _ rfl), rfl, collapsed changes textAt steps⟩

end ChangeRange

end VersionedText
