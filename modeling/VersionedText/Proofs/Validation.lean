import VersionedText.Proofs.Bounds

namespace VersionedText

/-!
# One check for a whole window

A history checks the net change of a window and not the records in it.  Where
every record accounts for the length that it states, this is as good as checking
each of them: the net change lies in the oldest text exactly when each span lies
in the text that its record found, for what one record oversteps no later one
takes back.  And where one record alone misstates its length, the error shows in
the growth of the whole, so the change is not known.  The check itself never
takes a greater number from a smaller one.  All this is so as long as no sum is out
of bounds; where every record is right, none is.
-/

private theorem forall_getElem?_cons
    {α : Type}
    {holds : Nat → α → Prop}
    {head : α}
    {tail : List α} :
    (∀ index item, (head :: tail)[index]? = some item → holds index item) ↔
      holds 0 head ∧ ∀ index item, tail[index]? = some item → holds (index + 1) item := by
  constructor
  · intro all
    exact ⟨all 0 head rfl, fun index item found => all (index + 1) item found⟩
  · rintro ⟨atHead, inTail⟩ index item found
    cases index with
    | zero =>
        obtain rfl := Option.some.inj found
        exact atHead
    | succ index =>
        exact inTail index item found

/-- What the first change of a chain oversteps, no later change takes back. -/
theorem ChangeRange.stop_collapse_cons_le_iff
    {first : ChangeRange}
    {oldLength middleLength : Nat}
    (growth : (middleLength : Int) = oldLength + first.lengthDelta)
    (later : List ChangeRange) :
    (collapse (first :: later)).span.stop ≤ oldLength ↔
      first.span.stop ≤ oldLength ∧ (collapse later).span.stop ≤ middleLength := by
  cases later with
  | nil =>
      exact (and_iff_left (Nat.zero_le middleLength)).symm
  | cons second rest =>
      rw [collapse_cons first (List.cons_ne_nil second rest)]
      exact stop_compose_le_iff growth _

namespace EditRecord

/-- The record states the length that its span and its insertion lead to. -/
def Balances (record : EditRecord) (before : Nat) : Prop :=
  (record.resultingLength : Int) =
    (before : Int) - record.span.length + record.insertedLength

instance (record : EditRecord) (before : Nat) : Decidable (record.Balances before) :=
  inferInstanceAs (Decidable (_ = _))

theorem balances_iff
    {record : EditRecord}
    (ordered : record.span.Ordered)
    (before : Nat) :
    record.Balances before ↔
      (record.resultingLength : Int) = before + record.change.lengthDelta := by
  simp only [Span.Ordered] at ordered
  simp only [Balances, Span.length, ChangeRange.lengthDelta, change]
  omega

/-- The record accounts for the growth from one of successive lengths to the next. -/
def Accounts (record : EditRecord) (lengths : Nat → Nat) (index : Nat) : Prop :=
  (lengths (index + 1) : Int) = lengths index + record.change.lengthDelta

/-- Each of successive records accounts for the step that it stands for. -/
def AllAccount (lengths : Nat → Nat) (records : List EditRecord) : Prop :=
  ∀ (index : Nat) (record : EditRecord),
    records[index]? = some record → record.Accounts lengths index

theorem allAccount_cons_iff
    {lengths : Nat → Nat}
    {record : EditRecord}
    {later : List EditRecord} :
    AllAccount lengths (record :: later) ↔
      record.Accounts lengths 0 ∧ AllAccount (fun index => lengths (index + 1)) later :=
  forall_getElem?_cons

/-- Where all records account for their steps, their collapse accounts for all steps. -/
theorem AllAccount.growth
    {lengths : Nat → Nat}
    {records : List EditRecord}
    (account : AllAccount lengths records) :
    (lengths records.length : Int) =
      lengths 0 + (ChangeRange.collapse (records.map change)).lengthDelta := by
  induction records generalizing lengths with
  | nil =>
      exact (Int.add_zero _).symm
  | cons record later inductionHypothesis =>
      obtain ⟨accountFirst, accountLater⟩ := allAccount_cons_iff.mp account
      have first : (lengths 1 : Int) = lengths 0 + record.change.lengthDelta := accountFirst
      have rest :
          (lengths (later.length + 1) : Int) =
            lengths 1 + (ChangeRange.collapse (later.map change)).lengthDelta :=
        inductionHypothesis accountLater
      rw [List.map_cons, ChangeRange.lengthDelta_collapse_cons, ← Int.add_assoc, ← first]
      exact rest

/--
One record alone that does not account for its step puts the whole growth wrong:
the records after it carry its error along unaltered.
-/
theorem growth_ne_of_not_accounts
    {records : List EditRecord}
    {index : Nat}
    {record : EditRecord}
    (lengths : Nat → Nat)
    (found : records[index]? = some record)
    (misstated : ¬record.Accounts lengths index)
    (account :
      ∀ (other : Nat) (item : EditRecord),
        records[other]? = some item → other ≠ index → item.Accounts lengths other) :
    (lengths records.length : Int) ≠
      lengths 0 + (ChangeRange.collapse (records.map change)).lengthDelta := by
  induction records generalizing lengths index with
  | nil =>
      cases found
  | cons first later inductionHypothesis =>
      obtain ⟨accountFirst, accountLater⟩ := forall_getElem?_cons.mp account
      rw [List.map_cons, ChangeRange.lengthDelta_collapse_cons, ← Int.add_assoc]
      intro growth
      cases index with
      | zero =>
          obtain rfl := Option.some.inj found
          have othersAccount : AllAccount (fun position => lengths (position + 1)) later :=
            fun other item atOther => accountLater other item atOther (Nat.succ_ne_zero other)
          exact misstated ((Int.add_left_inj _).mp (othersAccount.growth.symm.trans growth))
      | succ index =>
          have head : (lengths 1 : Int) = lengths 0 + first.change.lengthDelta :=
            accountFirst (Nat.succ_ne_zero index).symm
          rw [← head] at growth
          exact inductionHypothesis (fun position => lengths (position + 1)) found misstated
            (fun other item atOther different =>
              accountLater other item atOther fun same => different (Nat.succ.inj same))
            growth

/-- Where all records account for their steps, the collapse lies in the text if each span does. -/
theorem AllAccount.stop_collapse_le_iff
    {lengths : Nat → Nat}
    {records : List EditRecord}
    (account : AllAccount lengths records) :
    (ChangeRange.collapse (records.map change)).span.stop ≤ lengths 0 ↔
      ∀ (index : Nat) (record : EditRecord),
        records[index]? = some record → record.span.stop ≤ lengths index := by
  induction records generalizing lengths with
  | nil =>
      exact iff_of_true (Nat.zero_le _) fun index record found => by cases found
  | cons record later inductionHypothesis =>
      obtain ⟨accountFirst, accountLater⟩ := allAccount_cons_iff.mp account
      rw [List.map_cons, ChangeRange.stop_collapse_cons_le_iff accountFirst,
        inductionHypothesis accountLater, forall_getElem?_cons]
      rfl

end EditRecord

namespace History

/-- The record at a position of a window found a text of the given length. -/
def Finds
    (history : History)
    (old new index : Nat)
    (record : EditRecord)
    (before : Nat) :
    Prop :=
  (history.recordsBetween old new)[index]? = some record ∧
    history.lengthAt? (old + index) = some before

section Checked

/-- The check of a change with the arithmetic of offsets, with every difference checked. -/
def wrappingFits? (change : ChangeRange) (oldLength newLength : Nat) : Option Bool :=
  if oldLength < change.span.stop then
    some false
  else do
    let removed ← change.span.stop.psub change.span.start
    let kept ← oldLength.psub removed
    return Offset.add kept change.newLength == newLength

/-- No difference falls below zero where an ordered change is checked. -/
theorem wrappingFits?_eq
    {change : ChangeRange}
    {oldLength : Nat}
    (ordered : change.span.Ordered)
    (sum :
      change.span.stop ≤ oldLength →
        oldLength - change.span.length + change.newLength < Offset.bound)
    (newLength : Nat) :
    wrappingFits? change oldLength newLength = some (fits change oldLength newLength) := by
  rw [wrappingFits?, fits]
  split
  · rename_i outside
    rw [decide_eq_false (Nat.not_le_of_lt outside), Bool.false_and]
  · rename_i within
    have inside := Nat.le_of_not_lt within
    have removed : change.span.stop.psub change.span.start = some change.span.length :=
      Nat.psub_eq_some.mpr (Nat.sub_add_cancel ordered)
    have kept : oldLength.psub change.span.length = some (oldLength - change.span.length) :=
      Nat.psub_eq_some.mpr
        (Nat.sub_add_cancel (Nat.le_trans (Nat.sub_le _ _) inside))
    rw [removed, Option.bind_eq_bind, Option.bind_some, kept, decide_eq_true inside,
      Bool.true_and, ← Offset.add_eq (sum inside)]
    rfl

/-- Whether the net change of a window fits its ends, with every difference on the way checked. -/
def check? (history : History) (old new : Nat) : Option Bool := do
  let change ←
    ChangeRange.wrappingCollapse? ((history.recordsBetween old new).map EditRecord.change)
  let oldLength ← history.lengthAt? old
  let newLength ← history.lengthAt? new
  wrappingFits? change oldLength newLength

end Checked

section Window

variable {history : History} {old new : Nat}

theorem lengthOf_of_recordsBetween
    {index : Nat}
    {record : EditRecord}
    (fromBase : history.baseVersion ≤ old)
    (untilCurrent : new ≤ history.currentVersion)
    (found : (history.recordsBetween old new)[index]? = some record) :
    history.lengthOf (old + index + 1) = record.resultingLength := by
  have inside := (List.getElem?_eq_some_iff.mp found).1
  rw [length_recordsBetween fromBase untilCurrent] at inside
  rw [recordsBetween, List.getElem?_drop, List.getElem?_take_of_lt (by omega)] at found
  have version : history.baseVersion + (old - history.baseVersion + index) = old + index := by
    omega
  rw [lengthOf, ← version, lengthAt?_of_record found, Option.getD_some]

theorem finds_iff
    {index : Nat}
    {record : EditRecord}
    {before : Nat}
    (fromBase : history.baseVersion ≤ old)
    (untilCurrent : new ≤ history.currentVersion) :
    history.Finds old new index record before ↔
      (history.recordsBetween old new)[index]? = some record ∧
        before = history.lengthOf (old + index) := by
  apply and_congr_right
  intro found
  have inside := (List.getElem?_eq_some_iff.mp found).1
  rw [length_recordsBetween fromBase untilCurrent] at inside
  rw [lengthAt?_of_covers (by omega) (by omega), Option.some.injEq, eq_comm]

theorem exists_finds
    {index : Nat}
    (fromBase : history.baseVersion ≤ old)
    (untilCurrent : new ≤ history.currentVersion)
    (inside : index < new - old) :
    ∃ record before, history.Finds old new index record before := by
  rw [← length_recordsBetween fromBase untilCurrent] at inside
  exact ⟨_, _, (finds_iff fromBase untilCurrent).mpr ⟨List.getElem?_eq_getElem inside, rfl⟩⟩

theorem balances_iff_accounts
    {index : Nat}
    {record : EditRecord}
    (ordered : history.Ordered)
    (fromBase : history.baseVersion ≤ old)
    (untilCurrent : new ≤ history.currentVersion)
    (found : (history.recordsBetween old new)[index]? = some record) :
    record.Balances (history.lengthOf (old + index)) ↔
      record.Accounts (fun position => history.lengthOf (old + position)) index := by
  have recordOrdered : record.span.Ordered :=
    ordered record (List.mem_of_mem_take (List.mem_of_mem_drop (List.mem_of_getElem? found)))
  rw [EditRecord.balances_iff recordOrdered,
    ← lengthOf_of_recordsBetween fromBase untilCurrent found]
  rfl

theorem isSome_exactChangeBetween?
    (fromBase : history.baseVersion ≤ old)
    (inOrder : old < new)
    (untilCurrent : new ≤ history.currentVersion) :
    (history.exactChangeBetween? old new).isSome =
      fits (history.netChange old new) (history.lengthOf old) (history.lengthOf new) := by
  rw [exactChangeBetween?_eq_ite fromBase inOrder untilCurrent]
  cases fits (history.netChange old new) (history.lengthOf old) (history.lengthOf new) with
  | false =>
      rfl
  | true =>
      rfl

/-- A window is answered if its net change lies in the old text and accounts for its growth. -/
theorem exactChangeBetween?_isSome_iff_netChange
    (ordered : history.Ordered)
    (fromBase : history.baseVersion ≤ old)
    (inOrder : old < new)
    (untilCurrent : new ≤ history.currentVersion) :
    (history.exactChangeBetween? old new).isSome = true ↔
      (history.netChange old new).span.stop ≤ history.lengthOf old ∧
        (history.lengthOf new : Int) =
          history.lengthOf old + (history.netChange old new).lengthDelta := by
  rw [isSome_exactChangeBetween? fromBase inOrder untilCurrent,
    fits_iff (ordered.netChange old new)]

/-- Where all records balance, a window is answered if each span lies in the text it found. -/
theorem exactChangeBetween?_isSome_iff_of_balances
    (ordered : history.Ordered)
    (fromBase : history.baseVersion ≤ old)
    (inOrder : old < new)
    (untilCurrent : new ≤ history.currentVersion)
    (balance :
      ∀ index record before,
        history.Finds old new index record before → record.Balances before) :
    (history.exactChangeBetween? old new).isSome = true ↔
      ∀ index record before,
        history.Finds old new index record before → record.span.stop ≤ before := by
  have account :
      EditRecord.AllAccount (fun position => history.lengthOf (old + position))
        (history.recordsBetween old new) := by
    intro index record found
    rw [← balances_iff_accounts ordered fromBase untilCurrent found]
    exact balance index record _ ((finds_iff fromBase untilCurrent).mpr ⟨found, rfl⟩)
  have growth :
      (history.lengthOf new : Int) =
        history.lengthOf old + (history.netChange old new).lengthDelta := by
    have steps := account.growth
    have newShape : old + (new - old) = new := Nat.add_sub_cancel' (Nat.le_of_lt inOrder)
    rw [length_recordsBetween fromBase untilCurrent, newShape] at steps
    exact steps
  rw [exactChangeBetween?_isSome_iff_netChange ordered fromBase inOrder untilCurrent,
    and_iff_left growth]
  refine account.stop_collapse_le_iff.trans ?_
  constructor
  · intro within index record before finds
    obtain ⟨found, rfl⟩ := (finds_iff fromBase untilCurrent).mp finds
    exact within index record found
  · intro within index record found
    exact within index record _ ((finds_iff fromBase untilCurrent).mpr ⟨found, rfl⟩)

/-- Where one record of a window alone does not balance, the window is not answered. -/
theorem exactChangeBetween?_eq_none_of_existsUnique
    (ordered : history.Ordered)
    (fromBase : history.baseVersion ≤ old)
    (inOrder : old < new)
    (untilCurrent : new ≤ history.currentVersion)
    (misstated :
      ∃! index, ∃ record before,
        history.Finds old new index record before ∧ ¬record.Balances before) :
    history.exactChangeBetween? old new = none := by
  obtain ⟨index, ⟨record, before, finds, unbalanced⟩, onlyThere⟩ := misstated
  obtain ⟨found, rfl⟩ := (finds_iff fromBase untilCurrent).mp finds
  rw [balances_iff_accounts ordered fromBase untilCurrent found] at unbalanced
  have growth_ne :=
    EditRecord.growth_ne_of_not_accounts (fun position => history.lengthOf (old + position)) found
      unbalanced fun other item atOther different => by
        rw [← balances_iff_accounts ordered fromBase untilCurrent atOther]
        by_contra alsoUnbalanced
        exact different
          (onlyThere other
            ⟨item, _, (finds_iff fromBase untilCurrent).mpr ⟨atOther, rfl⟩, alsoUnbalanced⟩)
  have newShape : old + (new - old) = new := Nat.add_sub_cancel' (Nat.le_of_lt inOrder)
  rw [length_recordsBetween fromBase untilCurrent, newShape] at growth_ne
  rw [← Option.not_isSome_iff_eq_none,
    exactChangeBetween?_isSome_iff_netChange ordered fromBase inOrder untilCurrent]
  exact fun known => growth_ne known.2

/-- Within bounds the checked check never fails, and it comes to whether the change is known. -/
theorem check?_eq
    (ordered : history.Ordered)
    (fromBase : history.baseVersion ≤ old)
    (inOrder : old < new)
    (untilCurrent : new ≤ history.currentVersion)
    (sums : history.SumsBounded old new) :
    history.check? old new = some (history.exactChangeBetween? old new).isSome := by
  have oldPast := Nat.le_trans (Nat.le_of_lt inOrder) untilCurrent
  have newKept := Nat.le_trans fromBase (Nat.le_of_lt inOrder)
  rw [check?, sums.collapse.wrappingCollapse?_eq, lengthAt?_of_covers fromBase oldPast,
    lengthAt?_of_covers newKept untilCurrent,
    isSome_exactChangeBetween? fromBase inOrder untilCurrent]
  exact wrappingFits?_eq (ordered.netChange old new) sums.newLength _

/-- Records that balance and lie in the texts that they found fit the lengths of these. -/
theorem allFit_of_balances
    (ordered : history.Ordered)
    (fromBase : history.baseVersion ≤ old)
    (untilCurrent : new ≤ history.currentVersion)
    (valid :
      ∀ index record before,
        history.Finds old new index record before →
          record.Balances before ∧ record.span.stop ≤ before) :
    AllFit (fun index => history.lengthOf (old + index))
      ((history.recordsBetween old new).map EditRecord.change) := by
  intro index change found
  have changeOrdered :=
    ordered.change_of_mem_recordsBetween old new change (List.mem_of_getElem? found)
  rw [List.getElem?_map] at found
  obtain ⟨record, recorded, rfl⟩ := Option.map_eq_some_iff.mp found
  obtain ⟨balance, within⟩ :=
    valid index record _ ((finds_iff fromBase untilCurrent).mpr ⟨recorded, rfl⟩)
  rw [balances_iff_accounts ordered fromBase untilCurrent recorded] at balance
  exact (fits_iff changeOrdered _ _).mpr ⟨within, balance⟩

end Window

end History

end VersionedText
