import VersionedText.Proofs.Window

namespace VersionedText.History

/-!
# Limited histories abridge unlimited ones

A limited history forgets as it goes: after each edit what exceeds the limit is
dropped, and base version, base length and all positions move along.  An
unlimited history that goes through the same forgets nothing.  At any moment the
limited one is what is left of the unlimited one once all that exceeds the limit
is forgotten at a stroke.  So the two agree on the current version and, from the
limited base on, on every length and every change.
-/

/-- What can happen to a history. -/
inductive Step where
  /-- An edit was recorded. -/
  | pushed (record : EditRecord)
  /-- The history started again at a version. -/
  | restarted (version length : Nat)
  deriving Repr, DecidableEq

/-- The history after one step. -/
def step (history : History) : Step → History
  | .pushed record => history.push record
  | .restarted version length => history.reset version length

/-- The history after a run of steps. -/
def run (history : History) (steps : List Step) : History :=
  steps.foldl step history

/-- The history put under another limit, before anything is forgotten. -/
def withLimit (history : History) (limit : Option Nat) : History :=
  { history with limit := limit }

/-- The history put under a limit, with all that exceeds it forgotten. -/
def limitTo (most : Nat) (history : History) : History :=
  (history.withLimit (some most)).trim

section Forget

theorem forget_of_nil
    (count : Nat)
    {history : History}
    (nothing : history.records = []) :
    forget count history = history := by
  cases count with
  | zero =>
      rfl
  | succ count =>
      simp only [forget, nothing]

/-- Forgetting twice is forgetting as much at a stroke. -/
theorem forget_forget
    (first second : Nat)
    (history : History) :
    forget second (forget first history) = forget (first + second) history := by
  induction first generalizing history with
  | zero =>
      rw [Nat.zero_add]
      rfl
  | succ first inductionHypothesis =>
      rcases history with ⟨baseVersion, baseLength, records, limit⟩
      cases records with
      | nil =>
          rw [forget_of_nil _ rfl, forget_of_nil _ rfl, forget_of_nil _ rfl]
      | cons oldest later =>
          rw [Nat.succ_add]
          exact inductionHypothesis _

/-- What is forgotten of the records there are does not depend on one that is added. -/
theorem extend_forget
    {count : Nat}
    {history : History}
    (present : count ≤ history.records.length)
    (record : EditRecord) :
    (forget count history).extend record = forget count (history.extend record) := by
  induction count generalizing history with
  | zero =>
      rfl
  | succ count inductionHypothesis =>
      rcases history with ⟨baseVersion, baseLength, records, limit⟩
      cases records with
      | nil =>
          exact absurd present (Nat.not_succ_le_zero count)
      | cons oldest later =>
          exact inductionHypothesis (Nat.le_of_succ_le_succ present)

end Forget

theorem trim_of_limit
    {history : History}
    {most : Nat}
    (limited : history.limit = some most) :
    history.trim = forget (history.records.length - most) history := by
  rw [trim, limited]

theorem limit_trim (history : History) : history.trim.limit = history.limit := by
  obtain ⟨count, trimmed⟩ := history.exists_trim_eq_forget
  rw [trimmed, limit_forget]

/--
To forget already before an edit is recorded changes nothing: what exceeds the
limit then exceeds it afterwards, together with at most one record more.
-/
theorem trim_extend_trim
    (history : History)
    (record : EditRecord) :
    (history.trim.extend record).trim = (history.extend record).trim := by
  cases limited : history.limit with
  | none =>
      have untrimmed : history.trim = history := by
        rw [trim, limited]
      rw [untrimmed]
  | some most =>
      have trimmed := trim_of_limit limited
      have present : history.records.length - most ≤ history.records.length := Nat.sub_le _ _
      have kept :
          (history.trim.extend record).records.length =
            history.records.length - (history.records.length - most) + 1 := by
        simp only [extend, trimmed, records_forget, List.length_append, List.length_drop,
          List.length_singleton]
      have added : (history.extend record).records.length = history.records.length + 1 :=
        List.length_append
      have atAStroke :
          history.records.length - most +
              (history.records.length - (history.records.length - most) + 1 - most) =
            history.records.length + 1 - most := by
        omega
      calc
        (history.trim.extend record).trim =
            forget ((history.trim.extend record).records.length - most)
              (history.trim.extend record) := trim_of_limit ((limit_trim history).trans limited)
        _ = forget (history.records.length + 1 - most) (history.extend record) := by
          rw [kept, trimmed, extend_forget present, forget_forget, atAStroke]
        _ = (history.extend record).trim := by
          rw [trim_of_limit (show (history.extend record).limit = some most from limited), added]

section LimitTo

variable {history : History} (most : Nat)

/-- Under a limit an edit is recorded as it is without one, apart from what the limit takes. -/
theorem push_limitTo
    (unlimited : history.limit = none)
    (record : EditRecord) :
    (limitTo most history).push record = limitTo most (history.push record) := by
  have recorded : history.push record = history.extend record := by
    simp only [push_eq_trim_extend, trim, extend, unlimited]
  rw [push_eq_trim_extend, limitTo, trim_extend_trim, recorded]
  rfl

theorem limitTo_start
    (version length : Nat)
    (limit : Option Nat) :
    limitTo most (start version length limit) = start version length (some most) :=
  forget_of_nil _ rfl

theorem reset_limitTo
    (version length : Nat) :
    (limitTo most history).reset version length = limitTo most (history.reset version length) := by
  rw [reset, reset, limitTo_start, limitTo, limit_trim]
  rfl

theorem limit_step
    (history : History)
    (step : Step) :
    (history.step step).limit = history.limit := by
  cases step with
  | pushed record =>
      exact limit_push history record
  | restarted version length =>
      rfl

theorem step_limitTo
    (unlimited : history.limit = none)
    (step : Step) :
    (limitTo most history).step step = limitTo most (history.step step) := by
  cases step with
  | pushed record =>
      exact push_limitTo most unlimited record
  | restarted version length =>
      exact reset_limitTo most version length

/-- Forgetting as a run goes and forgetting at its end come to the same. -/
theorem run_limitTo
    (unlimited : history.limit = none)
    (steps : List Step) :
    (limitTo most history).run steps = limitTo most (history.run steps) := by
  induction steps generalizing history with
  | nil =>
      rfl
  | cons step later inductionHypothesis =>
      have stillUnlimited : (history.step step).limit = none := by
        rw [limit_step, unlimited]
      calc
        (limitTo most history).run (step :: later) =
            ((limitTo most history).step step).run later := rfl
        _ = (limitTo most (history.step step)).run later := by rw [step_limitTo most unlimited]
        _ = limitTo most ((history.step step).run later) := inductionHypothesis stillUnlimited

end LimitTo

/-- One history is what a limit leaves of another. -/
structure Abridges (limited full : History) (most : Nat) : Prop where
  currentVersion : limited.currentVersion = full.currentVersion
  baseVersion : limited.baseVersion = max full.baseVersion (full.currentVersion - most)
  /-- The latest records are retained, as many as the limit allows. -/
  records :
    limited.records <:+ full.records ∧
      limited.records.length = min most full.records.length
  lengthAt? :
    ∀ version,
      limited.lengthAt? version =
        if limited.baseVersion ≤ version then full.lengthAt? version else none
  /-- A change is known from the base on and, of a version to itself, everywhere. -/
  changeBetween? :
    ∀ old new,
      limited.changeBetween? old new =
        if old = new ∨ limited.baseVersion ≤ min old new then
          full.changeBetween? old new
        else
          none
  /-- With exact sums it is known as far. -/
  exactChangeBetween? :
    ∀ old new,
      limited.exactChangeBetween? old new =
        if old = new ∨ limited.baseVersion ≤ min old new then
          full.exactChangeBetween? old new
        else
          none

theorem currentVersion_limitTo
    (most : Nat)
    (history : History) :
    (limitTo most history).currentVersion = history.currentVersion :=
  currentVersion_forget _ (history.withLimit (some most))

theorem baseVersion_limitTo
    (most : Nat)
    (history : History) :
    (limitTo most history).baseVersion =
      max history.baseVersion (history.currentVersion - most) := by
  have present : history.records.length - most ≤ (history.withLimit (some most)).records.length :=
    Nat.sub_le _ _
  have base :
      (limitTo most history).baseVersion =
        history.baseVersion + (history.records.length - most) :=
    baseVersion_forget present
  rw [base, currentVersion]
  omega

theorem records_limitTo
    (most : Nat)
    (history : History) :
    (limitTo most history).records = history.records.drop (history.records.length - most) :=
  records_forget _ (history.withLimit (some most))

theorem lengthAt?_limitTo
    (most : Nat)
    (history : History)
    (version : Nat) :
    (limitTo most history).lengthAt? version =
      if (limitTo most history).baseVersion ≤ version then history.lengthAt? version else none := by
  split
  · rename_i kept
    exact lengthAt?_forget kept
  · rename_i lost
    have uncovered : ¬(limitTo most history).covers version = true := by
      rw [covers_iff]
      exact fun bounds => lost bounds.1
    rw [lengthAt?, if_neg uncovered]

theorem changeBetweenBy?_limitTo
    (collapse : List ChangeRange → ChangeRange)
    (fits : ChangeRange → Nat → Nat → Bool)
    (most : Nat)
    (history : History)
    (old new : Nat) :
    (limitTo most history).changeBetweenBy? collapse fits old new =
      if old = new ∨ (limitTo most history).baseVersion ≤ min old new then
        history.changeBetweenBy? collapse fits old new
      else
        none := by
  rcases Nat.lt_or_ge new old with backwards | inOrder
  · rw [changeBetweenBy?_of_lt backwards, changeBetweenBy?_of_lt backwards, ite_self]
  · rw [Nat.min_eq_left inOrder]
    exact changeBetweenBy?_forget _ _ _ _ old new

theorem abridges_limitTo
    (most : Nat)
    (history : History) :
    (limitTo most history).Abridges history most where
  currentVersion := currentVersion_limitTo most history
  baseVersion := baseVersion_limitTo most history
  records := by
    rw [records_limitTo, List.length_drop]
    exact ⟨List.drop_suffix _ _, by omega⟩
  lengthAt? := lengthAt?_limitTo most history
  changeBetween? := changeBetweenBy?_limitTo _ _ most history
  exactChangeBetween? := changeBetweenBy?_limitTo _ _ most history

/--
Whatever is recorded and however often a history starts again, under a limit it
is the abridgement of the one without a limit, also under a limit of nothing.
-/
theorem abridges_run
    (version length most : Nat)
    (steps : List Step) :
    ((start version length (some most)).run steps).Abridges
      ((start version length none).run steps) most := by
  have limited :
      (start version length (some most)).run steps =
        limitTo most ((start version length none).run steps) := by
    rw [← run_limitTo most rfl steps, limitTo_start]
  rw [limited]
  exact abridges_limitTo most _

end VersionedText.History
