import VersionedText.History

namespace VersionedText.History

/-!
# What a history retains

Forgetting drops records from the front and moves the base along by as many
versions.  So the base after an edit depends on the limit, the base before and
the current version alone: it is the oldest version that the limit still
reaches, and never one from before the last restart.
-/

/--
The oldest version that a history keeps at the current version `version` when it
was started at `restart`: all since then, or as many as the limit allows.
-/
def oldestKept (limit : Option Nat) (restart version : Nat) : Nat :=
  match limit with
  | none => restart
  | some most => max restart (version - most)

/-- At the restart itself the oldest version kept is the restart. -/
theorem oldestKept_self
    (limit : Option Nat)
    (restart : Nat) :
    oldestKept limit restart restart = restart := by
  cases limit with
  | none =>
      rfl
  | some most =>
      simp only [oldestKept]
      omega

/-- Nothing is kept from before the restart. -/
theorem le_oldestKept
    (limit : Option Nat)
    (restart version : Nat) :
    restart ≤ oldestKept limit restart version := by
  cases limit with
  | none =>
      exact Nat.le_refl _
  | some most =>
      exact Nat.le_max_left _ _

/-- What one version keeps is all that a later version can keep. -/
theorem oldestKept_oldestKept
    {restart version later : Nat}
    (limit : Option Nat)
    (inOrder : version ≤ later) :
    oldestKept limit (oldestKept limit restart version) later =
      oldestKept limit restart later := by
  cases limit with
  | none =>
      rfl
  | some most =>
      simp only [oldestKept]
      omega

/-- Forgetting drops the oldest records. -/
theorem records_forget
    (count : Nat)
    (history : History) :
    (forget count history).records = history.records.drop count := by
  induction count generalizing history with
  | zero =>
      rfl
  | succ count inductionHypothesis =>
      rcases history with ⟨baseVersion, baseLength, records, limit⟩
      cases records with
      | nil =>
          rfl
      | cons oldest later =>
          rw [forget, inductionHypothesis]
          rfl

/-- Every forgotten record moves the base one version on. -/
theorem baseVersion_forget
    {count : Nat}
    {history : History}
    (present : count ≤ history.records.length) :
    (forget count history).baseVersion = history.baseVersion + count := by
  have current := currentVersion_forget count history
  simp only [currentVersion, records_forget, List.length_drop] at current
  omega

theorem limit_forget
    (count : Nat)
    (history : History) :
    (forget count history).limit = history.limit := by
  induction count generalizing history with
  | zero =>
      rfl
  | succ count inductionHypothesis =>
      rcases history with ⟨baseVersion, baseLength, records, limit⟩
      cases records with
      | nil =>
          rfl
      | cons oldest later =>
          rw [forget, inductionHypothesis]

@[simp]
theorem limit_push
    (history : History)
    (record : EditRecord) :
    (history.push record).limit = history.limit := by
  obtain ⟨count, trimmed⟩ :=
    exists_trim_eq_forget { history with records := history.records ++ [record] }
  rw [push, trimmed, limit_forget]

@[simp]
theorem limit_reset
    (history : History)
    (version length : Nat) :
    (history.reset version length).limit = history.limit :=
  rfl

/-- The base after an edit is the oldest version kept at the version that the edit leads to. -/
theorem baseVersion_push
    (history : History)
    (record : EditRecord) :
    (history.push record).baseVersion =
      oldestKept history.limit history.baseVersion (history.currentVersion + 1) := by
  rcases history with ⟨baseVersion, baseLength, records, limit⟩
  cases limit with
  | none =>
      rfl
  | some most =>
      have present :
          (records ++ [record]).length - most ≤
            (⟨baseVersion, baseLength, records ++ [record], some most⟩ :
              History).records.length :=
        Nat.sub_le _ _
      simp only [push, trim, oldestKept, baseVersion_forget present]
      simp only [currentVersion, List.length_append, List.length_singleton]
      omega

end VersionedText.History
