import VersionedText.Proofs.Bracketing
import VersionedText.Proofs.Limits

namespace VersionedText

/-!
# Known changes chain

A history takes its records as they come: nothing makes the length that a record
claims agree with its span, or with the record before.  What is checked is the
net change of a window, against the lengths at its two ends.  The check says
that the change lies in the old text and accounts for the growth of the text.
Both carry over to windows that meet: where two changes are known, one up to a
version and one from it on, the change across is known, and it is their
composition.  All sums are exact here.
-/

namespace ChangeRange

/--
Where the first change accounts for the growth of a text, the composed span lies
in the old text exactly when each span lies in the text that it is a span of.
-/
theorem stop_compose_le_iff
    {first : ChangeRange}
    {oldLength middleLength : Nat}
    (growth : (middleLength : Int) = oldLength + first.lengthDelta)
    (second : ChangeRange) :
    (first.compose second).span.stop ≤ oldLength ↔
      first.span.stop ≤ oldLength ∧ second.span.stop ≤ middleLength := by
  rw [lengthDelta_eq] at growth
  rw [stop_compose]
  omega

end ChangeRange

namespace History

/-- An ordered change fits two lengths if it lies in the one and accounts for the other. -/
theorem fits_iff
    {change : ChangeRange}
    (ordered : change.span.Ordered)
    (oldLength newLength : Nat) :
    fits change oldLength newLength = true ↔
      change.span.stop ≤ oldLength ∧ (newLength : Int) = oldLength + change.lengthDelta := by
  simp only [Span.Ordered] at ordered
  simp only [fits, Span.length, ChangeRange.lengthDelta, Bool.and_eq_true, decide_eq_true_eq,
    beq_iff_eq]
  omega

/-- Changes that fit before and after a length fit across it when composed. -/
theorem fits_compose
    {first second : ChangeRange}
    {oldLength middleLength newLength : Nat}
    (firstOrdered : first.span.Ordered)
    (secondOrdered : second.span.Ordered)
    (firstFits : fits first oldLength middleLength = true)
    (secondFits : fits second middleLength newLength = true) :
    fits (first.compose second) oldLength newLength = true := by
  obtain ⟨firstWithin, firstGrowth⟩ := (fits_iff firstOrdered _ _).mp firstFits
  obtain ⟨secondWithin, secondGrowth⟩ := (fits_iff secondOrdered _ _).mp secondFits
  rw [fits_iff (ChangeRange.ordered_compose firstOrdered second)]
  refine ⟨(ChangeRange.stop_compose_le_iff firstGrowth second).mpr ⟨firstWithin, secondWithin⟩, ?_⟩
  rw [secondGrowth, firstGrowth, ChangeRange.lengthDelta_compose, Int.add_assoc]

section Window

variable {history : History} {old middle new : Nat}

theorem bounds_of_changeBetweenBy?
    {collapse : List ChangeRange → ChangeRange}
    {fits : ChangeRange → Nat → Nat → Bool}
    {change : ChangeRange}
    (inOrder : old < new)
    (known : history.changeBetweenBy? collapse fits old new = some change) :
    history.baseVersion ≤ old ∧ new ≤ history.currentVersion := by
  rcases covered_of_changeBetweenBy? known with ⟨same, -⟩ | ⟨fromBase, -, untilCurrent⟩
  · exact absurd same (Nat.ne_of_lt inOrder)
  · exact ⟨fromBase, untilCurrent⟩

theorem changes_ne_nil
    (fromBase : history.baseVersion ≤ old)
    (inOrder : old < new)
    (untilCurrent : new ≤ history.currentVersion) :
    (history.recordsBetween old new).map EditRecord.change ≠ [] := by
  rw [← List.length_pos_iff, List.length_map, length_recordsBetween fromBase untilCurrent]
  exact Nat.sub_pos_of_lt inOrder

/-- Windows that meet share out the records between them. -/
theorem recordsBetween_append
    (fromBase : history.baseVersion ≤ old)
    (firstOrder : old ≤ middle)
    (secondOrder : middle ≤ new)
    (untilCurrent : new ≤ history.currentVersion) :
    history.recordsBetween old new =
      history.recordsBetween old middle ++ history.recordsBetween middle new := by
  rw [currentVersion] at untilCurrent
  have sooner : middle - history.baseVersion ≤ new - history.baseVersion :=
    Nat.sub_le_sub_right secondOrder _
  have parted :=
    List.take_append_drop (middle - history.baseVersion)
      (history.records.take (new - history.baseVersion))
  rw [List.take_take, Nat.min_eq_left sooner] at parted
  have within :
      old - history.baseVersion ≤
        (history.records.take (middle - history.baseVersion)).length := by
    rw [List.length_take]
    omega
  rw [recordsBetween, ← parted, List.drop_append_of_le_length within, recordsBetween,
    recordsBetween]

theorem netChange_compose
    (fromBase : history.baseVersion ≤ old)
    (firstOrder : old < middle)
    (secondOrder : middle < new)
    (untilCurrent : new ≤ history.currentVersion) :
    history.netChange old new =
      (history.netChange old middle).compose (history.netChange middle new) := by
  have middlePast := Nat.le_trans (Nat.le_of_lt secondOrder) untilCurrent
  have middleKept := Nat.le_trans fromBase (Nat.le_of_lt firstOrder)
  rw [netChange,
    recordsBetween_append fromBase (Nat.le_of_lt firstOrder) (Nat.le_of_lt secondOrder)
      untilCurrent,
    List.map_append,
    ChangeRange.collapse_append (changes_ne_nil fromBase firstOrder middlePast)
      (changes_ne_nil middleKept secondOrder untilCurrent)]
  rfl

end Window

/-- The step records nothing with its ends out of order. -/
def Step.Ordered : Step → Prop
  | .pushed record => record.span.Ordered
  | .restarted _ _ => True

instance (step : Step) : Decidable step.Ordered :=
  match step with
  | .pushed record => inferInstanceAs (Decidable record.span.Ordered)
  | .restarted _ _ => inferInstanceAs (Decidable True)

/-- Every record of the history has the ends of its span in order. -/
def Ordered (history : History) : Prop :=
  ∀ record ∈ history.records, record.span.Ordered

namespace Ordered

theorem start
    (version length : Nat)
    (limit : Option Nat) :
    (History.start version length limit).Ordered := by
  intro record member
  cases member

theorem forget
    {history : History}
    (ordered : history.Ordered)
    (count : Nat) :
    (History.forget count history).Ordered := by
  intro record member
  rw [records_forget] at member
  exact ordered record (List.mem_of_mem_drop member)

theorem step
    {history : History}
    {step : Step}
    (ordered : history.Ordered)
    (stepOrdered : step.Ordered) :
    (history.step step).Ordered := by
  cases step with
  | pushed record =>
      have extended : (history.extend record).Ordered := by
        intro other member
        rcases mem_records_extend.mp member with earlier | rfl
        · exact ordered other earlier
        · exact stepOrdered
      obtain ⟨count, trimmed⟩ := (history.extend record).exists_trim_eq_forget
      rw [History.step, push_eq_trim_extend, trimmed]
      exact extended.forget count
  | restarted version length =>
      exact start version length history.limit

/-- A run that records only ordered spans leaves an ordered history. -/
theorem run
    {history : History}
    {steps : List Step}
    (ordered : history.Ordered)
    (stepsOrdered : ∀ step ∈ steps, step.Ordered) :
    (history.run steps).Ordered := by
  induction steps generalizing history with
  | nil =>
      exact ordered
  | cons step later inductionHypothesis =>
      rw [List.forall_mem_cons] at stepsOrdered
      exact inductionHypothesis (ordered.step stepsOrdered.1) stepsOrdered.2

theorem change_of_mem_recordsBetween
    {history : History}
    (ordered : history.Ordered)
    (old new : Nat) :
    ∀ change ∈ (history.recordsBetween old new).map EditRecord.change, change.span.Ordered := by
  intro change member
  obtain ⟨record, recorded, rfl⟩ := List.mem_map.mp member
  exact ordered record (List.mem_of_mem_take (List.mem_of_mem_drop recorded))

theorem netChange
    {history : History}
    (ordered : history.Ordered)
    (old new : Nat) :
    (history.netChange old new).span.Ordered :=
  ChangeRange.ordered_collapse (ordered.change_of_mem_recordsBetween old new)

/-- A change that is known is in order and fits the lengths at its ends. -/
theorem fits_of_exactChangeBetween?
    {history : History}
    {old new : Nat}
    {change : ChangeRange}
    (ordered : history.Ordered)
    (inOrder : old < new)
    (known : history.exactChangeBetween? old new = some change) :
    change.span.Ordered ∧ fits change (history.lengthOf old) (history.lengthOf new) = true := by
  obtain ⟨fromBase, untilCurrent⟩ := bounds_of_changeBetweenBy? inOrder known
  rw [exactChangeBetween?_eq_ite fromBase inOrder untilCurrent, Option.ite_none_right_eq_some,
    Option.some.injEq] at known
  obtain ⟨fitting, rfl⟩ := known
  exact ⟨ordered.netChange old new, fitting⟩

/-- Where two changes that meet are known, so is the change across. -/
theorem exactChangeBetween?_across
    {history : History}
    {old middle new : Nat}
    {first second : ChangeRange}
    (ordered : history.Ordered)
    (firstOrder : old < middle)
    (secondOrder : middle < new)
    (firstKnown : history.exactChangeBetween? old middle = some first)
    (secondKnown : history.exactChangeBetween? middle new = some second) :
    history.exactChangeBetween? old new = some (first.compose second) := by
  obtain ⟨fromBase, middlePast⟩ := bounds_of_changeBetweenBy? firstOrder firstKnown
  obtain ⟨middleKept, untilCurrent⟩ := bounds_of_changeBetweenBy? secondOrder secondKnown
  obtain ⟨firstShape, firstFits⟩ := ordered.fits_of_exactChangeBetween? firstOrder firstKnown
  obtain ⟨secondShape, secondFits⟩ := ordered.fits_of_exactChangeBetween? secondOrder secondKnown
  have across := fits_compose firstShape secondShape firstFits secondFits
  rw [eq_collapse_of_exactChangeBetween? (Nat.ne_of_lt firstOrder) firstKnown,
    eq_collapse_of_exactChangeBetween? (Nat.ne_of_lt secondOrder) secondKnown] at across ⊢
  rw [exactChangeBetween?_eq_ite fromBase (Nat.lt_trans firstOrder secondOrder) untilCurrent,
    netChange_compose fromBase firstOrder secondOrder untilCurrent]
  exact if_pos across

end Ordered

end History

end VersionedText
