import VersionedText.Proofs.Recount
import VersionedText.Proofs.Retention

namespace VersionedText.History

/-!
# One window in a history that moves on

A question to a history is about a window, the records from one version to
another.  Edits add records behind every window so far, and forgetting takes
records away from the front while the positions of all others move.  What is
left of a window is found all the same: the lengths, the records and the answer
are as before, unless the window has lost its first version.
-/

/-- A history with one record more, before the limit is looked at. -/
def extend (history : History) (record : EditRecord) : History :=
  { history with records := history.records ++ [record] }

theorem push_eq_trim_extend
    (history : History)
    (record : EditRecord) :
    history.push record = (history.extend record).trim :=
  rfl

theorem mem_records_extend
    {history : History}
    {record other : EditRecord} :
    other ∈ (history.extend record).records ↔ other ∈ history.records ∨ other = record := by
  simp [extend]

section Answers

variable {collapse : List ChangeRange → ChangeRange} {fits : ChangeRange → Nat → Nat → Bool}

/-- Histories that cover, measure and tell a window alike answer for it alike. -/
theorem changeBetweenBy?_congr
    {first second : History}
    {old new : Nat}
    (oldCovered : first.covers old = second.covers old)
    (newCovered : first.covers new = second.covers new)
    (oldLength : first.lengthAt? old = second.lengthAt? old)
    (newLength : first.lengthAt? new = second.lengthAt? new)
    (records : first.recordsBetween old new = second.recordsBetween old new) :
    first.changeBetweenBy? collapse fits old new =
      second.changeBetweenBy? collapse fits old new := by
  simp only [changeBetweenBy?, oldCovered, newCovered, oldLength, newLength, records]

/-- Of two different versions nothing is known, unless both are covered and in order. -/
theorem changeBetweenBy?_of_not_covered
    {history : History}
    {old new : Nat}
    (different : old ≠ new)
    (uncovered :
      ¬(history.baseVersion ≤ old ∧ old < new ∧ new ≤ history.currentVersion)) :
    history.changeBetweenBy? collapse fits old new = none := by
  cases known : history.changeBetweenBy? collapse fits old new with
  | none =>
      rfl
  | some change =>
      rcases covered_of_changeBetweenBy? known with ⟨same, -⟩ | covered
      · exact absurd same different
      · exact absurd covered uncovered

/-- Nothing is known of a version from before the base, but that it is itself. -/
theorem changeBetweenBy?_of_lt_baseVersion
    {history : History}
    {old new : Nat}
    (different : old ≠ new)
    (before : old < history.baseVersion) :
    history.changeBetweenBy? collapse fits old new = none :=
  changeBetweenBy?_of_not_covered different fun covered =>
    Nat.not_le_of_lt before covered.1

/-- A version is never told from a newer one. -/
theorem changeBetweenBy?_of_lt
    {history : History}
    {old new : Nat}
    (backwards : new < old) :
    history.changeBetweenBy? collapse fits old new = none :=
  changeBetweenBy?_of_not_covered (Nat.ne_of_gt backwards) fun covered =>
    Nat.lt_asymm backwards covered.2.1

end Answers

section Extend

variable {history : History} {version : Nat}

theorem covers_extend
    (past : version ≤ history.currentVersion)
    (record : EditRecord) :
    (history.extend record).covers version = history.covers version := by
  have stillPast : version ≤ (history.extend record).currentVersion := by
    simp only [currentVersion, extend, List.length_append] at past ⊢
    omega
  rw [covers, covers, decide_eq_true past, decide_eq_true stillPast]
  rfl

theorem lengthAt?_extend
    (past : version ≤ history.currentVersion)
    (record : EditRecord) :
    (history.extend record).lengthAt? version = history.lengthAt? version := by
  rw [lengthAt?, lengthAt?, covers_extend past]
  cases distance : version - history.baseVersion with
  | zero =>
      simp [extend, distance]
  | succ index =>
      have inside : index < history.records.length := by
        rw [currentVersion] at past
        omega
      simp [extend, distance, List.getElem?_append_left inside]

theorem recordsBetween_extend
    {old new : Nat}
    (past : new ≤ history.currentVersion)
    (record : EditRecord) :
    (history.extend record).recordsBetween old new = history.recordsBetween old new := by
  have inside : new - history.baseVersion ≤ history.records.length := by
    rw [currentVersion] at past
    omega
  simp only [recordsBetween, extend, List.take_append_of_le_length inside]

theorem changeBetweenBy?_extend
    (collapse : List ChangeRange → ChangeRange)
    (fits : ChangeRange → Nat → Nat → Bool)
    {old new : Nat}
    (past : new ≤ history.currentVersion)
    (record : EditRecord) :
    (history.extend record).changeBetweenBy? collapse fits old new =
      history.changeBetweenBy? collapse fits old new := by
  by_cases inOrder : old ≤ new
  · have oldPast := Nat.le_trans inOrder past
    exact changeBetweenBy?_congr (covers_extend oldPast record) (covers_extend past record)
      (lengthAt?_extend oldPast record) (lengthAt?_extend past record)
      (recordsBetween_extend past record)
  · have backwards := Nat.lt_of_not_le inOrder
    rw [changeBetweenBy?_of_lt backwards, changeBetweenBy?_of_lt backwards]

end Extend

section Forget

theorem baseVersion_le_forget
    (count : Nat)
    (history : History) :
    history.baseVersion ≤ (forget count history).baseVersion := by
  have current := currentVersion_forget count history
  simp only [currentVersion, records_forget, List.length_drop] at current
  omega

/-- What is still covered after forgetting. -/
theorem covers_forget
    {count : Nat}
    {history : History}
    {version : Nat}
    (kept : (forget count history).baseVersion ≤ version) :
    (forget count history).covers version = history.covers version := by
  have alsoBefore := Nat.le_trans (baseVersion_le_forget count history) kept
  rw [covers, covers, decide_eq_true kept, decide_eq_true alsoBefore, currentVersion_forget]

/-- A kept version keeps its length: the length at the new base is that after the dropped record. -/
theorem lengthAt?_forget
    {count : Nat}
    {history : History}
    {version : Nat}
    (kept : (forget count history).baseVersion ≤ version) :
    (forget count history).lengthAt? version = history.lengthAt? version := by
  induction count generalizing history with
  | zero =>
      rfl
  | succ count inductionHypothesis =>
      rcases history with ⟨baseVersion, baseLength, records, limit⟩
      cases records with
      | nil =>
          rfl
      | cons oldest later =>
          simp only [forget] at kept ⊢
          rw [inductionHypothesis kept]
          have fromNext :
              (forget 1 ⟨baseVersion, baseLength, oldest :: later, limit⟩).baseVersion ≤
                version :=
            Nat.le_trans
              (baseVersion_le_forget count
                ⟨baseVersion + 1, oldest.resultingLength, later, limit⟩)
              kept
          rw [lengthAt?, lengthAt?, ← covers_forget fromNext]
          obtain ⟨distance, rfl⟩ := Nat.exists_eq_add_of_le fromNext
          have distances :
              baseVersion + 1 + distance - (baseVersion + 1) = distance ∧
                baseVersion + 1 + distance - baseVersion = distance + 1 := by
            omega
          simp only [forget, distances.1, distances.2]
          cases distance <;> rfl

/-- A window whose first version is kept holds the same records. -/
theorem recordsBetween_forget
    {count : Nat}
    {history : History}
    {old new : Nat}
    (kept : (forget count history).baseVersion ≤ old) :
    (forget count history).recordsBetween old new = history.recordsBetween old new := by
  have current := currentVersion_forget count history
  simp only [currentVersion, records_forget, List.length_drop] at current
  obtain ⟨dropped, newBase⟩ := Nat.exists_eq_add_of_le (baseVersion_le_forget count history)
  rw [newBase] at kept
  have sameRecords : history.records.drop count = history.records.drop dropped := by
    rw [List.drop_eq_drop_iff]
    omega
  have sameStart :
      dropped + (old - (history.baseVersion + dropped)) = old - history.baseVersion := by
    omega
  have sameCount :
      new - (history.baseVersion + dropped) - (old - (history.baseVersion + dropped)) =
        new - history.baseVersion - (old - history.baseVersion) := by
    omega
  rw [recordsBetween, recordsBetween, records_forget, sameRecords, newBase, List.drop_take,
    List.drop_take, List.drop_drop, sameStart, sameCount]

/-- After forgetting, the answer for a window is the same, unless its first version is lost. -/
theorem changeBetweenBy?_forget
    (collapse : List ChangeRange → ChangeRange)
    (fits : ChangeRange → Nat → Nat → Bool)
    (count : Nat)
    (history : History)
    (old new : Nat) :
    (forget count history).changeBetweenBy? collapse fits old new =
      if old = new ∨ (forget count history).baseVersion ≤ old then
        history.changeBetweenBy? collapse fits old new
      else
        none := by
  by_cases same : old = new
  · rw [if_pos (.inl same), same, changeBetweenBy?_self, changeBetweenBy?_self]
  · by_cases kept : (forget count history).baseVersion ≤ old
    · rw [if_pos (.inr kept)]
      rcases Nat.lt_or_ge new old with backwards | inOrder
      · rw [changeBetweenBy?_of_lt backwards, changeBetweenBy?_of_lt backwards]
      · have newKept := Nat.le_trans kept inOrder
        exact changeBetweenBy?_congr (covers_forget kept) (covers_forget newKept)
          (lengthAt?_forget kept) (lengthAt?_forget newKept) (recordsBetween_forget kept)
    · rw [if_neg (by simp [same, kept])]
      exact changeBetweenBy?_of_lt_baseVersion same (Nat.lt_of_not_le kept)

end Forget

/-- After an edit, the answer for a window so far is the same, unless its first version is lost. -/
theorem changeBetweenBy?_push
    (collapse : List ChangeRange → ChangeRange)
    (fits : ChangeRange → Nat → Nat → Bool)
    {history : History}
    {old new : Nat}
    (past : new ≤ history.currentVersion)
    (record : EditRecord) :
    (history.push record).changeBetweenBy? collapse fits old new =
      if old = new ∨ (history.push record).baseVersion ≤ old then
        history.changeBetweenBy? collapse fits old new
      else
        none := by
  obtain ⟨count, trimmed⟩ := (history.extend record).exists_trim_eq_forget
  rw [push_eq_trim_extend, trimmed, ← changeBetweenBy?_extend collapse fits past record]
  exact changeBetweenBy?_forget collapse fits count (history.extend record) old new

end VersionedText.History
