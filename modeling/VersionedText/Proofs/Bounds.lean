import VersionedText.Proofs.Bookkeeping
import VersionedText.Proofs.Chaining

namespace VersionedText

/-!
# Sums within bounds

A history may be told of lengths of any size, and then the sums that compose and
check changes may be out of bounds.  Where no sum is, the arithmetic of offsets is
exact.  No sum is out of bounds when changes fit successive lengths that are offsets
themselves, since what they come to ends within one of these lengths.  So the
history of a document is exact as long as its texts have lengths within bounds, and
of any history known changes chain as long as the sums that tell them are.
-/

namespace ChangeRange

/-- No sum is out of bounds that is taken to compose two changes. -/
structure SumsBounded (first second : ChangeRange) : Prop where
  firstStop : first.newSpan.stop < Offset.bound
  secondStop : second.newSpan.stop < Offset.bound
  oldStop : (first.compose second).span.stop < Offset.bound
  newStop : (first.compose second).newSpan.stop < Offset.bound

instance (first second : ChangeRange) : Decidable (first.SumsBounded second) :=
  decidable_of_iff
    ((first.newSpan.stop < Offset.bound ∧ second.newSpan.stop < Offset.bound) ∧
      (first.compose second).span.stop < Offset.bound ∧
        (first.compose second).newSpan.stop < Offset.bound)
    ⟨fun sums => ⟨sums.1.1, sums.1.2, sums.2.1, sums.2.2⟩,
      fun sums => ⟨⟨sums.firstStop, sums.secondStop⟩, sums.oldStop, sums.newStop⟩⟩

/-- No sum is out of bounds that is taken to compose a change with later ones, one by one. -/
def FoldBounded (first : ChangeRange) : List ChangeRange → Prop
  | [] => True
  | second :: later => first.SumsBounded second ∧ FoldBounded (first.compose second) later

/-- No sum is out of bounds that is taken to collapse a chain. -/
def CollapseBounded : List ChangeRange → Prop
  | [] => True
  | first :: later => first.FoldBounded later

/-- Whether no sum is out of bounds is found out by taking the sums. -/
def decideFoldBounded (first : ChangeRange) :
    (later : List ChangeRange) → Decidable (first.FoldBounded later)
  | [] => inferInstanceAs (Decidable True)
  | second :: later =>
      have := decideFoldBounded (first.compose second) later
      inferInstanceAs
        (Decidable (first.SumsBounded second ∧ FoldBounded (first.compose second) later))

instance (changes : List ChangeRange) : Decidable (CollapseBounded changes) :=
  match changes with
  | [] => inferInstanceAs (Decidable True)
  | first :: later => decideFoldBounded first later

namespace SumsBounded

variable {first second : ChangeRange} (sums : first.SumsBounded second)

include sums

theorem firstStop_eq :
    Offset.add first.span.start first.newLength = first.newSpan.stop :=
  Offset.add_eq sums.firstStop

theorem oldStop_eq :
    Offset.add first.span.stop (second.span.stop - first.newSpan.stop) =
      (first.compose second).span.stop :=
  Offset.add_eq sums.oldStop

theorem newStop_eq :
    Offset.add (Offset.add second.span.start second.newLength)
        (first.newSpan.stop - second.span.stop) =
      (first.compose second).newSpan.stop := by
  have secondStop : Offset.add second.span.start second.newLength = second.newSpan.stop :=
    Offset.add_eq sums.secondStop
  have newStop := sums.newStop
  rw [newStop_compose] at newStop ⊢
  rw [secondStop, Offset.add_eq newStop]

/-- Within bounds changes compose as they do with exact sums. -/
theorem wrappingCompose_eq : first.wrappingCompose second = first.compose second := by
  have newLength :
      Offset.sub (first.compose second).newSpan.stop (min first.span.start second.span.start) =
        (first.compose second).newLength :=
    (Offset.sub_eq (Nat.le_add_right _ _) sums.newStop).trans (Nat.add_sub_cancel_left _ _)
  simp only [wrappingCompose, sums.firstStop_eq, sums.oldStop_eq, sums.newStop_eq, newLength]
  rfl

end SumsBounded

/-- Within bounds a chain collapses as it does with exact sums. -/
theorem FoldBounded.foldl_eq
    {first : ChangeRange}
    {later : List ChangeRange}
    (sums : first.FoldBounded later) :
    later.foldl wrappingCompose first = later.foldl compose first := by
  induction later generalizing first with
  | nil =>
      rfl
  | cons second rest inductionHypothesis =>
      obtain ⟨firstSums, restSums⟩ := sums
      rw [List.foldl_cons, List.foldl_cons, firstSums.wrappingCompose_eq,
        inductionHypothesis restSums]

theorem CollapseBounded.wrappingCollapse_eq
    {changes : List ChangeRange}
    (sums : CollapseBounded changes) :
    wrappingCollapse changes = collapse changes := by
  cases changes with
  | nil =>
      rfl
  | cons first later =>
      exact FoldBounded.foldl_eq sums

section Checked

/--
The composition with the arithmetic of offsets, with its only difference checked
that is not meant to stop at zero.
-/
def wrappingCompose? (first second : ChangeRange) : Option ChangeRange := do
  let firstStop := Offset.add first.span.start first.newLength
  let secondStop := Offset.add second.span.start second.newLength
  let start := min first.span.start second.span.start
  let oldStop := Offset.add first.span.stop (second.span.stop - firstStop)
  let newStop := Offset.add secondStop (firstStop - second.span.stop)
  let newLength ← newStop.psub start
  return ⟨⟨start, oldStop⟩, newLength⟩

/-- The collapse of a chain, with the difference of every composition checked. -/
def wrappingCollapse? : List ChangeRange → Option ChangeRange
  | [] => some unchanged
  | first :: later => later.foldlM wrappingCompose? first

/-- Within bounds the difference never falls below zero. -/
theorem SumsBounded.wrappingCompose?_eq
    {first second : ChangeRange}
    (sums : first.SumsBounded second) :
    wrappingCompose? first second = some (first.compose second) := by
  have newLength :
      (first.compose second).newSpan.stop.psub (min first.span.start second.span.start) =
        some (first.compose second).newLength :=
    Nat.psub_eq_some.mpr (Nat.add_comm _ _)
  simp only [wrappingCompose?, sums.firstStop_eq, sums.oldStop_eq, sums.newStop_eq, newLength,
    Option.bind_eq_bind, Option.bind_some]
  rfl

theorem FoldBounded.foldlM_eq
    {first : ChangeRange}
    {later : List ChangeRange}
    (sums : first.FoldBounded later) :
    later.foldlM wrappingCompose? first = some (later.foldl compose first) := by
  induction later generalizing first with
  | nil =>
      rfl
  | cons second rest inductionHypothesis =>
      obtain ⟨firstSums, restSums⟩ := sums
      rw [List.foldlM_cons, firstSums.wrappingCompose?_eq]
      exact inductionHypothesis restSums

theorem CollapseBounded.wrappingCollapse?_eq
    {changes : List ChangeRange}
    (sums : CollapseBounded changes) :
    wrappingCollapse? changes = some (collapse changes) := by
  cases changes with
  | nil =>
      rfl
  | cons first later =>
      exact FoldBounded.foldlM_eq sums

end Checked

end ChangeRange

namespace History

/-- Where a change fits two lengths, its replacement lies in the new text. -/
theorem newStop_le_of_fits
    {change : ChangeRange}
    {oldLength newLength : Nat}
    (ordered : change.span.Ordered)
    (fitting : fits change oldLength newLength = true) :
    change.newSpan.stop ≤ newLength := by
  obtain ⟨within, growth⟩ := (fits_iff ordered _ _).mp fitting
  rw [ChangeRange.lengthDelta_eq] at growth
  omega

/-- Sums that compose changes which fit before and after a length are within one of the three. -/
theorem sumsBounded_of_fits
    {first second : ChangeRange}
    {oldLength middleLength newLength : Nat}
    (firstOrdered : first.span.Ordered)
    (secondOrdered : second.span.Ordered)
    (firstFits : fits first oldLength middleLength = true)
    (secondFits : fits second middleLength newLength = true)
    (oldBounded : oldLength < Offset.bound)
    (middleBounded : middleLength < Offset.bound)
    (newBounded : newLength < Offset.bound) :
    first.SumsBounded second := by
  have ordered := ChangeRange.ordered_compose firstOrdered second
  have across := fits_compose firstOrdered secondOrdered firstFits secondFits
  have within := ((fits_iff ordered _ _).mp across).1
  exact
    { firstStop := Nat.lt_of_le_of_lt (newStop_le_of_fits firstOrdered firstFits) middleBounded
      secondStop := Nat.lt_of_le_of_lt (newStop_le_of_fits secondOrdered secondFits) newBounded
      oldStop := Nat.lt_of_le_of_lt within oldBounded
      newStop := Nat.lt_of_le_of_lt (newStop_le_of_fits ordered across) newBounded }

/-- Each of successive changes fits the step from one of successive lengths to the next. -/
def AllFit (lengths : Nat → Nat) (changes : List ChangeRange) : Prop :=
  ∀ (index : Nat) (change : ChangeRange),
    changes[index]? = some change → fits change (lengths index) (lengths (index + 1)) = true

namespace AllFit

/--
A change that fits up to the first of the lengths is composed with those that fit
from there on: what has been composed so far always fits, and so no sum is out of
bounds at the next.
-/
theorem fold
    {first : ChangeRange}
    {later : List ChangeRange}
    {before : Nat}
    {lengths : Nat → Nat}
    (allFit : AllFit lengths later)
    (firstOrdered : first.span.Ordered)
    (laterOrdered : ∀ change ∈ later, change.span.Ordered)
    (firstFits : fits first before (lengths 0) = true)
    (beforeBounded : before < Offset.bound)
    (bounded : ∀ index, lengths index < Offset.bound) :
    first.FoldBounded later ∧
      fits (later.foldl ChangeRange.compose first) before (lengths later.length) = true := by
  induction later generalizing first lengths with
  | nil =>
      exact ⟨trivial, firstFits⟩
  | cons second rest inductionHypothesis =>
      rw [List.forall_mem_cons] at laterOrdered
      have secondFits := allFit 0 second rfl
      have sums :=
        sumsBounded_of_fits firstOrdered laterOrdered.1 firstFits secondFits beforeBounded
          (bounded 0) (bounded 1)
      have restFits : AllFit (fun index => lengths (index + 1)) rest :=
        fun index change found => allFit (index + 1) change found
      obtain ⟨restSums, fitting⟩ :=
        inductionHypothesis restFits (ChangeRange.ordered_compose firstOrdered second)
          laterOrdered.2 (fits_compose firstOrdered laterOrdered.1 firstFits secondFits)
          fun index => bounded (index + 1)
      exact ⟨⟨sums, restSums⟩, fitting⟩

theorem collapse
    {changes : List ChangeRange}
    {lengths : Nat → Nat}
    (allFit : AllFit lengths changes)
    (ordered : ∀ change ∈ changes, change.span.Ordered)
    (bounded : ∀ index, lengths index < Offset.bound) :
    ChangeRange.CollapseBounded changes ∧
      fits (ChangeRange.collapse changes) (lengths 0) (lengths changes.length) = true := by
  cases changes with
  | nil =>
      exact ⟨trivial, by simp [fits, ChangeRange.collapse, ChangeRange.unchanged, Span.length]⟩
  | cons first later =>
      rw [List.forall_mem_cons] at ordered
      have laterFit : AllFit (fun index => lengths (index + 1)) later :=
        fun index change found => allFit (index + 1) change found
      exact
        laterFit.fold ordered.1 ordered.2 (allFit 0 first rfl) (bounded 0) fun index =>
          bounded (index + 1)

end AllFit

/-- The step tells a history of nothing but offsets. -/
def Step.Bounded : Step → Prop
  | .pushed record =>
      record.span.stop < Offset.bound ∧
        record.insertedLength < Offset.bound ∧ record.resultingLength < Offset.bound
  | .restarted _ length => length < Offset.bound

instance (step : Step) : Decidable step.Bounded :=
  match step with
  | .pushed record =>
      inferInstanceAs
        (Decidable
          (record.span.stop < Offset.bound ∧
            record.insertedLength < Offset.bound ∧ record.resultingLength < Offset.bound))
  | .restarted _ length => inferInstanceAs (Decidable (length < Offset.bound))

/-- Every length that the history knows is an offset. -/
structure LengthsBounded (history : History) : Prop where
  baseLength : history.baseLength < Offset.bound
  records : ∀ record ∈ history.records, record.resultingLength < Offset.bound

namespace LengthsBounded

theorem start
    {length : Nat}
    (bounded : length < Offset.bound)
    (version : Nat)
    (limit : Option Nat) :
    (History.start version length limit).LengthsBounded where
  baseLength := bounded
  records := by
    intro record member
    cases member

theorem forget
    {history : History}
    (lengths : history.LengthsBounded)
    (count : Nat) :
    (History.forget count history).LengthsBounded := by
  induction count generalizing history with
  | zero =>
      exact lengths
  | succ count inductionHypothesis =>
      rcases history with ⟨baseVersion, baseLength, records, limit⟩
      cases records with
      | nil =>
          exact lengths
      | cons oldest later =>
          obtain ⟨oldestBounded, laterBounded⟩ := List.forall_mem_cons.mp lengths.records
          exact inductionHypothesis ⟨oldestBounded, laterBounded⟩

theorem step
    {history : History}
    {step : Step}
    (lengths : history.LengthsBounded)
    (bounded : step.Bounded) :
    (history.step step).LengthsBounded := by
  cases step with
  | pushed record =>
      have extended : (history.extend record).LengthsBounded := by
        refine ⟨lengths.baseLength, ?_⟩
        intro other member
        rcases mem_records_extend.mp member with earlier | rfl
        · exact lengths.records other earlier
        · exact bounded.2.2
      obtain ⟨count, trimmed⟩ := (history.extend record).exists_trim_eq_forget
      rw [History.step, push_eq_trim_extend, trimmed]
      exact extended.forget count
  | restarted version length =>
      exact start bounded version history.limit

/-- A run that tells a history of nothing but offsets leaves it with nothing but offsets. -/
theorem run
    {history : History}
    {steps : List Step}
    (lengths : history.LengthsBounded)
    (stepsBounded : ∀ step ∈ steps, step.Bounded) :
    (history.run steps).LengthsBounded := by
  induction steps generalizing history with
  | nil =>
      exact lengths
  | cons step later inductionHypothesis =>
      rw [List.forall_mem_cons] at stepsBounded
      exact inductionHypothesis (lengths.step stepsBounded.1) stepsBounded.2

theorem lengthOf_lt
    {history : History}
    (lengths : history.LengthsBounded)
    (version : Nat) :
    history.lengthOf version < Offset.bound := by
  have positive : 0 < Offset.bound := Nat.lt_of_le_of_lt (Nat.zero_le _) lengths.baseLength
  rw [lengthOf, lengthAt?]
  split
  · split
    · exact lengths.baseLength
    · rename_i index _
      cases found : history.records[index]? with
      | none =>
          exact positive
      | some record =>
          exact lengths.records record (List.mem_of_getElem? found)
  · exact positive

end LengthsBounded

/-- No sum is out of bounds that is taken to tell the change between two versions. -/
structure SumsBounded (history : History) (old new : Nat) : Prop where
  collapse :
    ChangeRange.CollapseBounded ((history.recordsBetween old new).map EditRecord.change)
  newLength :
    (history.netChange old new).span.stop ≤ history.lengthOf old →
      history.lengthOf old - (history.netChange old new).span.length +
          (history.netChange old new).newLength <
        Offset.bound

instance (history : History) (old new : Nat) : Decidable (history.SumsBounded old new) :=
  decidable_of_iff
    (ChangeRange.CollapseBounded ((history.recordsBetween old new).map EditRecord.change) ∧
      ((history.netChange old new).span.stop ≤ history.lengthOf old →
        history.lengthOf old - (history.netChange old new).span.length +
            (history.netChange old new).newLength <
          Offset.bound))
    ⟨fun sums => ⟨sums.1, sums.2⟩, fun sums => ⟨sums.collapse, sums.newLength⟩⟩

/-- Within bounds an ordered change is checked as it is with exact sums. -/
theorem wrappingFits_eq
    {change : ChangeRange}
    {oldLength : Nat}
    (ordered : change.span.Ordered)
    (oldBounded : oldLength < Offset.bound)
    (sum :
      change.span.stop ≤ oldLength →
        oldLength - change.span.length + change.newLength < Offset.bound)
    (newLength : Nat) :
    wrappingFits change oldLength newLength = fits change oldLength newLength := by
  rw [wrappingFits, fits]
  by_cases within : change.span.stop ≤ oldLength
  · have removed : Offset.sub change.span.stop change.span.start = change.span.length :=
      Offset.sub_eq ordered (Nat.lt_of_le_of_lt within oldBounded)
    have shorter : change.span.length ≤ oldLength := Nat.le_trans (Nat.sub_le _ _) within
    rw [removed, Offset.sub_eq shorter oldBounded, Offset.add_eq (sum within)]
  · rw [decide_eq_false within, Bool.false_and, Bool.false_and]

section Window

variable {history : History} {old new : Nat}

/-- Within bounds a change in a covered window is told as it is with exact sums. -/
theorem changeBetween?_eq_exact
    (ordered : history.Ordered)
    (lengths : history.LengthsBounded)
    (fromBase : history.baseVersion ≤ old)
    (inOrder : old < new)
    (untilCurrent : new ≤ history.currentVersion)
    (sums : history.SumsBounded old new) :
    history.changeBetween? old new = history.exactChangeBetween? old new := by
  rw [changeBetween?, changeBetweenBy?_eq_ite _ _ fromBase inOrder untilCurrent,
    sums.collapse.wrappingCollapse_eq,
    exactChangeBetween?_eq_ite fromBase inOrder untilCurrent,
    ← wrappingFits_eq (ordered.netChange old new) (lengths.lengthOf_lt old) sums.newLength]
  rfl

/-- Where each change of a window fits the lengths before and after it, no sum is out of bounds. -/
theorem AllFit.sumsBounded
    (ordered : history.Ordered)
    (lengths : history.LengthsBounded)
    (fromBase : history.baseVersion ≤ old)
    (inOrder : old ≤ new)
    (untilCurrent : new ≤ history.currentVersion)
    (allFit :
      AllFit (fun index => history.lengthOf (old + index))
        ((history.recordsBetween old new).map EditRecord.change)) :
    history.SumsBounded old new := by
  obtain ⟨collapse, fitting⟩ :=
    allFit.collapse (ordered.change_of_mem_recordsBetween old new) fun index =>
      lengths.lengthOf_lt (old + index)
  refine ⟨collapse, fun _ => ?_⟩
  rw [List.length_map, length_recordsBetween fromBase untilCurrent, Nat.add_sub_cancel' inOrder,
    Nat.add_zero, fits, Bool.and_eq_true, beq_iff_eq] at fitting
  rw [netChange, fitting.2]
  exact lengths.lengthOf_lt new

end Window

namespace Recounts

theorem ordered
    {history : History}
    {textAt : Nat → Text}
    (recounts : history.Recounts textAt) :
    history.Ordered := by
  intro record member
  obtain ⟨index, found⟩ := List.mem_iff_getElem?.mp member
  exact (recounts.records index record found).explains.1

theorem lengthsBounded
    {history : History}
    {textAt : Nat → Text}
    (recounts : history.Recounts textAt)
    (bounded :
      ∀ version, history.covers version = true → (textAt version).size < Offset.bound) :
    history.LengthsBounded where
  baseLength := by
    rw [recounts.baseLength]
    exact bounded _ ((covers_iff _ _).mpr ⟨Nat.le_refl _, Nat.le_add_right _ _⟩)
  records := by
    intro record member
    obtain ⟨index, found⟩ := List.mem_iff_getElem?.mp member
    have inside : index < history.records.length := (List.getElem?_eq_some_iff.mp found).1
    rw [(recounts.records index record found).resultingLength]
    exact
      bounded _
        ((covers_iff _ _).mpr ⟨by omega, Nat.add_le_add_left inside history.baseVersion⟩)

theorem allFit
    {history : History}
    {textAt : Nat → Text}
    {old new : Nat}
    (recounts : history.Recounts textAt)
    (fromBase : history.baseVersion ≤ old)
    (untilCurrent : new ≤ history.currentVersion) :
    AllFit (fun index => history.lengthOf (old + index))
      ((history.recordsBetween old new).map EditRecord.change) := by
  intro index change found
  rw [List.getElem?_map] at found
  obtain ⟨record, recorded, rfl⟩ := Option.map_eq_some_iff.mp found
  have rewrites := recounts.tell_recordsBetween fromBase new index record recorded
  have inside := (List.getElem?_eq_some_iff.mp recorded).1
  rw [length_recordsBetween fromBase untilCurrent] at inside
  have before : history.covers (old + index) = true :=
    (covers_iff _ _).mpr ⟨by omega, by omega⟩
  have after : history.covers (old + (index + 1)) = true :=
    (covers_iff _ _).mpr ⟨by omega, by omega⟩
  simp only [recounts.lengthOf_eq before, recounts.lengthOf_eq after]
  exact fits_of_explains rewrites.explains

/-- Of texts that have lengths within bounds a history tells every change exactly. -/
theorem changeBetween?_eq_exact
    {history : History}
    {textAt : Nat → Text}
    (recounts : history.Recounts textAt)
    (bounded :
      ∀ version, history.covers version = true → (textAt version).size < Offset.bound)
    (old new : Nat) :
    history.changeBetween? old new = history.exactChangeBetween? old new := by
  by_cases same : old = new
  · rw [same, changeBetween?, exactChangeBetween?, changeBetweenBy?_self, changeBetweenBy?_self]
  · by_cases covered :
        history.baseVersion ≤ old ∧ old < new ∧ new ≤ history.currentVersion
    · obtain ⟨fromBase, inOrder, untilCurrent⟩ := covered
      have lengths := recounts.lengthsBounded bounded
      have sums :=
        (recounts.allFit fromBase untilCurrent).sumsBounded recounts.ordered lengths fromBase
          (Nat.le_of_lt inOrder) untilCurrent
      exact
        History.changeBetween?_eq_exact recounts.ordered lengths fromBase inOrder untilCurrent sums
    · rw [changeBetween?, exactChangeBetween?, changeBetweenBy?_of_not_covered same covered,
        changeBetweenBy?_of_not_covered same covered]

end Recounts

end History

/--
As long as the texts of a document have lengths within bounds, its history tells
changes with the arithmetic of offsets as the document does with exact sums.
-/
theorem Document.changeBetween?_eq_of_bounded
    {uri : Uri}
    {opening : Nat}
    {initial : Text}
    {limit : Option Nat}
    {revisions : List Revision}
    (bounded :
      ∀ version text,
        (create uri opening initial limit).Held revisions version text →
          text.size < Offset.bound)
    (old new : Nat) :
    let document := (create uri opening initial limit).reviseAll revisions
    document.changeBetween? old new = document.history.changeBetween? old new := by
  intro document
  obtain ⟨textAt, follows, -, holds⟩ :=
    (Follows.create uri opening initial limit).reviseAll revisions
  have booked := (Booked.create uri opening initial limit).reviseAll revisions
  refine (follows.recounts.changeBetween?_eq_exact ?_ old new).symm
  intro version covered
  obtain ⟨fromBase, untilCurrent⟩ := (History.covers_iff _ _).mp covered
  rw [follows.currentVersion] at untilCurrent
  obtain ⟨text, held⟩ := exists_held (Nat.le_trans booked.fromFirst fromBase) untilCurrent
  rw [holds version text held]
  exact bounded version text held

end VersionedText
