import VersionedText.Proofs.Explanation
import VersionedText.Proofs.Retention

namespace VersionedText

/-!
# Histories that recount texts

A history holds lengths and spans, and no text.  It recounts the texts of a
document, given by version, when each of its records rewrites the text of one
version into that of the next.  Recording an edit, forgetting and starting again
keep this, and it decides every question to the history: lengths are those of
the texts, a change that is known explains the texts at both ends, and between
covered versions a change is always known.
-/

namespace EditRecord

/-- The record is of an edit that turned one text into another. -/
structure Rewrites (record : EditRecord) (old new : Text) : Prop where
  explains : record.change.Explains old new
  resultingLength : record.resultingLength = new.size

/-- Successive records, of which the first belongs to the given version. -/
def Tell (textAt : Nat → Text) (version : Nat) (records : List EditRecord) : Prop :=
  ∀ (index : Nat) (record : EditRecord),
    records[index]? = some record →
      record.Rewrites (textAt (version + index)) (textAt (version + index + 1))

namespace Tell

theorem drop
    {textAt : Nat → Text}
    {version : Nat}
    {records : List EditRecord}
    (tell : Tell textAt version records)
    (count : Nat) :
    Tell textAt (version + count) (records.drop count) := by
  intro index record found
  rw [List.getElem?_drop] at found
  simpa only [Nat.add_assoc] using tell (count + index) record found

theorem take
    {textAt : Nat → Text}
    {version : Nat}
    {records : List EditRecord}
    (tell : Tell textAt version records)
    (count : Nat) :
    Tell textAt version (records.take count) := by
  intro index record found
  have inside : index < (records.take count).length :=
    (List.getElem?_eq_some_iff.mp found).1
  rw [List.length_take] at inside
  rw [List.getElem?_take_of_lt (by omega)] at found
  exact tell index record found

theorem append_singleton
    {textAt : Nat → Text}
    {version : Nat}
    {records : List EditRecord}
    {latest : EditRecord}
    (tell : Tell textAt version records)
    (rewrites :
      latest.Rewrites
        (textAt (version + records.length))
        (textAt (version + records.length + 1))) :
    Tell textAt version (records ++ [latest]) := by
  intro index record found
  by_cases earlier : index < records.length
  · rw [List.getElem?_append_left earlier] at found
    exact tell index record found
  · rw [List.getElem?_append_right (by omega), List.getElem?_singleton] at found
    split at found
    · rename_i atEnd
      have indexShape : index = records.length := by omega
      cases found
      subst indexShape
      exact rewrites
    · cases found

/-- The changes of successive records lead from the first text to the last. -/
theorem chain
    {textAt : Nat → Text}
    {version : Nat}
    {records : List EditRecord}
    (tell : Tell textAt version records) :
    ChangeRange.Chain
      (textAt version)
      (records.map change)
      (textAt (version + records.length)) := by
  have chain :
      ChangeRange.Chain (textAt version) (records.map change)
        (textAt (version + (records.map change).length)) := by
    apply ChangeRange.Chain.of_steps
    intro index step found
    rw [List.getElem?_map] at found
    obtain ⟨record, recorded, rfl⟩ := Option.map_eq_some_iff.mp found
    exact (tell index record recorded).explains
  rwa [List.length_map] at chain

end Tell

end EditRecord

namespace History

/-- The history tells how the texts of its versions came from each other. -/
structure Recounts (history : History) (textAt : Nat → Text) : Prop where
  baseLength : history.baseLength = (textAt history.baseVersion).size
  records : EditRecord.Tell textAt history.baseVersion history.records

/-- A change that explains two texts fits their lengths. -/
theorem fits_of_explains
    {change : ChangeRange}
    {old new : Text}
    (explains : change.Explains old new) :
    fits change old.size new.size = true := by
  obtain ⟨head, removed, inserted, tail, rfl, rfl, rfl⟩ :=
    (ChangeRange.explains_iff_parts _ _ _).mp explains
  simp only [fits, Span.length, Text.size_append, Bool.and_eq_true,
    decide_eq_true_eq, beq_iff_eq]
  omega

theorem covers_iff
    (history : History)
    (version : Nat) :
    history.covers version = true ↔
      history.baseVersion ≤ version ∧ version ≤ history.currentVersion := by
  simp [covers]

theorem lengthAt?_baseVersion (history : History) :
    history.lengthAt? history.baseVersion = some history.baseLength := by
  have covered : history.covers history.baseVersion = true :=
    (covers_iff _ _).mpr ⟨Nat.le_refl _, Nat.le_add_right _ _⟩
  simp only [lengthAt?, if_pos covered, Nat.sub_self]

/-- The length at a version is the one that the record leading to it states. -/
theorem lengthAt?_of_record
    {history : History}
    {index : Nat}
    {record : EditRecord}
    (found : history.records[index]? = some record) :
    history.lengthAt? (history.baseVersion + index + 1) = some record.resultingLength := by
  have inside : index < history.records.length := (List.getElem?_eq_some_iff.mp found).1
  have covered : history.covers (history.baseVersion + index + 1) = true :=
    (covers_iff _ _).mpr ⟨by omega, Nat.add_le_add_left inside history.baseVersion⟩
  have distance : history.baseVersion + index + 1 - history.baseVersion = index + 1 := by omega
  simp only [lengthAt?, if_pos covered, distance, found, Option.map_some]

/-- A window between covered versions has a record for each step. -/
theorem length_recordsBetween
    {history : History}
    {old new : Nat}
    (fromBase : history.baseVersion ≤ old)
    (untilCurrent : new ≤ history.currentVersion) :
    (history.recordsBetween old new).length = new - old := by
  rw [currentVersion] at untilCurrent
  rw [recordsBetween, List.length_drop, List.length_take]
  omega

/-- The change that the records of a window come to, whether it is answered or not. -/
def netChange (history : History) (old new : Nat) : ChangeRange :=
  ChangeRange.collapse ((history.recordsBetween old new).map EditRecord.change)

/-- The length at a version, for a version that is covered. -/
def lengthOf (history : History) (version : Nat) : Nat :=
  (history.lengthAt? version).getD 0

theorem lengthAt?_of_covers
    {history : History}
    {version : Nat}
    (fromBase : history.baseVersion ≤ version)
    (untilCurrent : version ≤ history.currentVersion) :
    history.lengthAt? version = some (history.lengthOf version) := by
  obtain ⟨distance, rfl⟩ := Nat.exists_eq_add_of_le fromBase
  cases distance with
  | zero =>
      rw [lengthOf, Nat.add_zero, lengthAt?_baseVersion, Option.getD_some]
  | succ index =>
      have inside : index < history.records.length := Nat.lt_of_add_lt_add_left untilCurrent
      have found := List.getElem?_eq_getElem inside
      rw [lengthOf, ← Nat.add_assoc, lengthAt?_of_record found, Option.getD_some]

/-- In a covered window the answer hangs on one check of what the records collapse to. -/
theorem changeBetweenBy?_eq_ite
    (collapse : List ChangeRange → ChangeRange)
    (fits : ChangeRange → Nat → Nat → Bool)
    {history : History}
    {old new : Nat}
    (fromBase : history.baseVersion ≤ old)
    (inOrder : old < new)
    (untilCurrent : new ≤ history.currentVersion) :
    history.changeBetweenBy? collapse fits old new =
      let change := collapse ((history.recordsBetween old new).map EditRecord.change)
      if fits change (history.lengthOf old) (history.lengthOf new) then some change else none := by
  have oldPast := Nat.le_trans (Nat.le_of_lt inOrder) untilCurrent
  have newKept := Nat.le_trans fromBase (Nat.le_of_lt inOrder)
  have covered : (history.covers old && history.covers new) = true := by
    rw [Bool.and_eq_true, covers_iff, covers_iff]
    exact ⟨⟨fromBase, oldPast⟩, newKept, untilCurrent⟩
  rw [changeBetweenBy?, if_neg (Nat.ne_of_lt inOrder), if_neg (Nat.lt_asymm inOrder),
    if_pos covered, lengthAt?_of_covers fromBase oldPast,
    lengthAt?_of_covers newKept untilCurrent]
  rfl

theorem exactChangeBetween?_eq_ite
    {history : History}
    {old new : Nat}
    (fromBase : history.baseVersion ≤ old)
    (inOrder : old < new)
    (untilCurrent : new ≤ history.currentVersion) :
    history.exactChangeBetween? old new =
      if fits (history.netChange old new) (history.lengthOf old) (history.lengthOf new) then
        some (history.netChange old new)
      else
        none :=
  changeBetweenBy?_eq_ite ChangeRange.collapse fits fromBase inOrder untilCurrent

namespace Recounts

/-- A history with nothing recorded yet recounts the text that it starts with. -/
theorem start
    {textAt : Nat → Text}
    {version length : Nat}
    (limit : Option Nat)
    (sameLength : length = (textAt version).size) :
    (History.start version length limit).Recounts textAt where
  baseLength := sameLength
  records := by
    intro index record found
    simp [History.start] at found

/-- Only the texts up to the current version matter. -/
theorem congr
    {history : History}
    {textAt extended : Nat → Text}
    (recounts : history.Recounts textAt)
    (agree : ∀ version, version ≤ history.currentVersion → extended version = textAt version) :
    history.Recounts extended where
  baseLength := by
    rw [agree history.baseVersion (Nat.le_add_right _ _)]
    exact recounts.baseLength
  records := by
    intro index record found
    have inside : index < history.records.length :=
      (List.getElem?_eq_some_iff.mp found).1
    rw [agree (history.baseVersion + index) (by rw [currentVersion]; omega),
      agree (history.baseVersion + index + 1) (by rw [currentVersion]; omega)]
    exact recounts.records index record found

/-- A history that has forgotten its oldest records recounts the texts since then. -/
theorem forget
    {history : History}
    {textAt : Nat → Text}
    (recounts : history.Recounts textAt)
    (count : Nat) :
    (History.forget count history).Recounts textAt := by
  induction count generalizing history with
  | zero =>
      exact recounts
  | succ count inductionHypothesis =>
      rcases history with ⟨baseVersion, baseLength, records, limit⟩
      cases records with
      | nil =>
          exact recounts
      | cons oldest later =>
          have first := recounts.records 0 oldest rfl
          exact inductionHypothesis
            { baseLength := first.resultingLength
              records := recounts.records.drop 1 }

/-- Recording an edit recounts one text more. -/
theorem push
    {history : History}
    {textAt : Nat → Text}
    {record : EditRecord}
    (recounts : history.Recounts textAt)
    (rewrites :
      record.Rewrites
        (textAt history.currentVersion)
        (textAt (history.currentVersion + 1))) :
    (history.push record).Recounts textAt := by
  have recorded :
      ({ history with records := history.records ++ [record] } : History).Recounts textAt :=
    { baseLength := recounts.baseLength
      records := recounts.records.append_singleton rewrites }
  obtain ⟨count, trimmed⟩ :=
    exists_trim_eq_forget { history with records := history.records ++ [record] }
  rw [History.push, trimmed]
  exact recorded.forget count

/-- The length of a covered version is that of its text. -/
theorem lengthAt?_eq
    {history : History}
    {textAt : Nat → Text}
    {version : Nat}
    (recounts : history.Recounts textAt)
    (covered : history.covers version = true) :
    history.lengthAt? version = some (textAt version).size := by
  obtain ⟨fromBase, untilCurrent⟩ := (covers_iff history version).mp covered
  obtain ⟨distance, rfl⟩ := Nat.exists_eq_add_of_le fromBase
  cases distance with
  | zero =>
      rw [Nat.add_zero, lengthAt?_baseVersion, recounts.baseLength]
  | succ index =>
      have inside : index < history.records.length := Nat.lt_of_add_lt_add_left untilCurrent
      have found := List.getElem?_eq_getElem inside
      rw [← Nat.add_assoc, lengthAt?_of_record found,
        (recounts.records index _ found).resultingLength]

theorem lengthOf_eq
    {history : History}
    {textAt : Nat → Text}
    {version : Nat}
    (recounts : history.Recounts textAt)
    (covered : history.covers version = true) :
    history.lengthOf version = (textAt version).size := by
  rw [lengthOf, recounts.lengthAt?_eq covered, Option.getD_some]

/-- The records of a window belong to its versions. -/
theorem tell_recordsBetween
    {history : History}
    {textAt : Nat → Text}
    {old : Nat}
    (recounts : history.Recounts textAt)
    (fromBase : history.baseVersion ≤ old)
    (new : Nat) :
    EditRecord.Tell textAt old (history.recordsBetween old new) := by
  have tell :=
    (recounts.records.take (new - history.baseVersion)).drop (old - history.baseVersion)
  have oldShape : history.baseVersion + (old - history.baseVersion) = old := by omega
  rw [oldShape] at tell
  exact tell

/-- The records between two covered versions lead from one text to the other. -/
theorem chain_recordsBetween
    {history : History}
    {textAt : Nat → Text}
    {old new : Nat}
    (recounts : history.Recounts textAt)
    (fromBase : history.baseVersion ≤ old)
    (inOrder : old ≤ new)
    (untilCurrent : new ≤ history.currentVersion) :
    ChangeRange.Chain
      (textAt old)
      ((history.recordsBetween old new).map EditRecord.change)
      (textAt new) := by
  have chain := (recounts.tell_recordsBetween fromBase new).chain
  have newShape : old + (new - old) = new := by omega
  rw [length_recordsBetween fromBase untilCurrent, newShape] at chain
  exact chain

/-- Between covered versions the change is the collapse of the records, and it explains the texts. -/
theorem exactChangeBetween?_of_covers
    {history : History}
    {textAt : Nat → Text}
    {old new : Nat}
    (recounts : history.Recounts textAt)
    (fromBase : history.baseVersion ≤ old)
    (inOrder : old ≤ new)
    (untilCurrent : new ≤ history.currentVersion) :
    ∃ change,
      history.exactChangeBetween? old new = some change ∧
        change.Explains (textAt old) (textAt new) := by
  by_cases same : old = new
  · subst same
    exact ⟨.unchanged, changeBetweenBy?_self _ _ history old, .unchanged (textAt old)⟩
  · have oldCovered : history.covers old = true :=
      (covers_iff history old).mpr ⟨fromBase, by omega⟩
    have newCovered : history.covers new = true :=
      (covers_iff history new).mpr ⟨by omega, untilCurrent⟩
    have explains : (history.netChange old new).Explains (textAt old) (textAt new) :=
      (recounts.chain_recordsBetween fromBase inOrder untilCurrent).collapse
    refine ⟨history.netChange old new, ?_, explains⟩
    rw [exactChangeBetween?_eq_ite fromBase (Nat.lt_of_le_of_ne inOrder same) untilCurrent,
      recounts.lengthOf_eq oldCovered, recounts.lengthOf_eq newCovered,
      if_pos (fits_of_explains explains)]

end Recounts

/-- A change is known only from a version to itself or between covered versions in order. -/
theorem covered_of_changeBetweenBy?
    {collapse : List ChangeRange → ChangeRange}
    {fits : ChangeRange → Nat → Nat → Bool}
    {history : History}
    {old new : Nat}
    {change : ChangeRange}
    (known : history.changeBetweenBy? collapse fits old new = some change) :
    old = new ∧ change = .unchanged ∨
      history.baseVersion ≤ old ∧ old < new ∧ new ≤ history.currentVersion := by
  rw [changeBetweenBy?] at known
  split at known
  · rename_i same
    exact .inl ⟨same, (Option.some.inj known).symm⟩
  · rename_i different
    split at known
    · cases known
    · rename_i inOrder
      split at known
      · rename_i covered
        simp only [Bool.and_eq_true, covers_iff] at covered
        exact .inr ⟨covered.1.1, by omega, covered.2.2⟩
      · cases known

/-- What is known between two different versions is the collapse of the records in between. -/
theorem eq_collapse_of_exactChangeBetween?
    {history : History}
    {old new : Nat}
    {change : ChangeRange}
    (different : old ≠ new)
    (known : history.exactChangeBetween? old new = some change) :
    change = ChangeRange.collapse ((history.recordsBetween old new).map EditRecord.change) := by
  rcases covered_of_changeBetweenBy? known with ⟨same, -⟩ | ⟨fromBase, inOrder, untilCurrent⟩
  · exact absurd same different
  · rw [exactChangeBetween?_eq_ite fromBase inOrder untilCurrent,
      Option.ite_none_right_eq_some] at known
    exact (Option.some.inj known.2).symm

namespace Recounts

/-- A change that is known explains the texts at both ends. -/
theorem explains_of_exactChangeBetween?
    {history : History}
    {textAt : Nat → Text}
    {old new : Nat}
    {change : ChangeRange}
    (recounts : history.Recounts textAt)
    (known : history.exactChangeBetween? old new = some change) :
    change.Explains (textAt old) (textAt new) := by
  rcases covered_of_changeBetweenBy? known with
      ⟨rfl, rfl⟩ | ⟨fromBase, inOrder, untilCurrent⟩
  · exact .unchanged (textAt old)
  · obtain ⟨collapsed, collapsedKnown, explains⟩ :=
      recounts.exactChangeBetween?_of_covers fromBase (Nat.le_of_lt inOrder) untilCurrent
    rw [known] at collapsedKnown
    cases collapsedKnown
    exact explains

/-- Exactly which changes are known. -/
theorem exactChangeBetween?_isSome_iff
    {history : History}
    {textAt : Nat → Text}
    (recounts : history.Recounts textAt)
    (old new : Nat) :
    (history.exactChangeBetween? old new).isSome = true ↔
      old = new ∨
        history.baseVersion ≤ old ∧ old < new ∧ new ≤ history.currentVersion := by
  constructor
  · intro someKnown
    obtain ⟨change, known⟩ := Option.isSome_iff_exists.mp someKnown
    rcases covered_of_changeBetweenBy? known with ⟨same, -⟩ | covered
    · exact .inl same
    · exact .inr covered
  · rintro (rfl | ⟨fromBase, inOrder, untilCurrent⟩)
    · rw [exactChangeBetween?, changeBetweenBy?_self]
      rfl
    · obtain ⟨change, known, -⟩ :=
        recounts.exactChangeBetween?_of_covers fromBase (Nat.le_of_lt inOrder) untilCurrent
      rw [known]
      rfl

end Recounts

end History

end VersionedText
