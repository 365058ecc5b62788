import VersionedText.ChangeRange

namespace VersionedText

/-!
# Edit histories

Versions are numbers, and the first version of a document is one.  A history
covers the versions from its base up to the current one: the record
at position `i` leads from version `base + i` to version `base + i + 1`.  A
history may be limited, and then it forgets its oldest records, moving its base
along.  The change between two covered versions is the collapse of the records
in between, answered only when it explains the text lengths at both ends.  Nothing
keeps the sums of the numbers that a history is told within bounds, so they are
taken with the arithmetic of offsets.  Of the numbers that come from texts the
sums are exact, and so is the answer.
-/

/-- One localized edit. -/
structure EditRecord where
  /-- Span of the previous text that was replaced. -/
  span : Span
  /-- Length of what was put in its place. -/
  insertedLength : Nat
  /-- Length of the whole text after the edit. -/
  resultingLength : Nat
  deriving Repr, DecidableEq

namespace EditRecord

/-- The change that a single edit makes. -/
def change (record : EditRecord) : ChangeRange :=
  ⟨record.span, record.insertedLength⟩

end EditRecord

/-- The retained edits of a document. -/
structure History where
  /-- Oldest version still covered. -/
  baseVersion : Nat
  /-- Length of the text at the oldest covered version. -/
  baseLength : Nat
  /-- Retained edits, oldest first. -/
  records : List EditRecord
  /-- Most records to retain; all of them when absent. -/
  limit : Option Nat
  deriving Repr, DecidableEq

namespace History

/-- A history that starts at a version, with nothing recorded yet. -/
def start (version : Nat) (length : Nat) (limit : Option Nat) : History :=
  ⟨version, length, [], limit⟩

/-- The version after the last record. -/
def currentVersion (history : History) : Nat :=
  history.baseVersion + history.records.length

/-- Forget a number of the oldest records; each moves the base one version on. -/
def forget : Nat → History → History
  | 0, history => history
  | count + 1, history =>
      match history.records with
      | [] => history
      | oldest :: later =>
          forget count
            { history with
              baseVersion := history.baseVersion + 1
              baseLength := oldest.resultingLength
              records := later }

/-- Forget what exceeds the limit. -/
def trim (history : History) : History :=
  match history.limit with
  | none => history
  | some most => forget (history.records.length - most) history

/-- Record the edit that leads to the next version. -/
def push (history : History) (record : EditRecord) : History :=
  trim { history with records := history.records ++ [record] }

/-- Forget everything and start again at a version. -/
def reset (history : History) (version : Nat) (length : Nat) : History :=
  start version length history.limit

/-- Whether a version lies between the base and the current version. -/
def covers (history : History) (version : Nat) : Bool :=
  history.baseVersion ≤ version && version ≤ history.currentVersion

/-- Length of the text at a covered version. -/
def lengthAt? (history : History) (version : Nat) : Option Nat :=
  if history.covers version then
    match version - history.baseVersion with
    | 0 => some history.baseLength
    | index + 1 => (history.records[index]?).map EditRecord.resultingLength
  else
    none

/-- The records that lead from one covered version to a later one. -/
def recordsBetween (history : History) (old new : Nat) : List EditRecord :=
  (history.records.take (new - history.baseVersion)).drop (old - history.baseVersion)

/-- Whether a change turns a text of the old length into one of the new length. -/
def fits (change : ChangeRange) (oldLength newLength : Nat) : Bool :=
  change.span.stop ≤ oldLength &&
    oldLength - change.span.length + change.newLength == newLength

/-- The same with the arithmetic of offsets, for a change of any size. -/
def wrappingFits (change : ChangeRange) (oldLength newLength : Nat) : Bool :=
  change.span.stop ≤ oldLength &&
    Offset.add (Offset.sub oldLength (Offset.sub change.span.stop change.span.start))
      change.newLength == newLength

/-- Forgetting records leaves the current version alone. -/
theorem currentVersion_forget
    (count : Nat)
    (history : History) :
    (forget count history).currentVersion = history.currentVersion := by
  induction count generalizing history with
  | zero =>
      rfl
  | succ count inductionHypothesis =>
      rcases history with ⟨baseVersion, baseLength, records, limit⟩
      cases records with
      | nil =>
          rfl
      | cons oldest later =>
          rw [forget, inductionHypothesis]
          simp only [currentVersion, List.length_cons]
          omega

/-- To forget what exceeds the limit is to forget some number of records. -/
theorem exists_trim_eq_forget (history : History) :
    ∃ count, history.trim = forget count history := by
  rw [trim]
  split
  · exact ⟨0, rfl⟩
  · exact ⟨_, rfl⟩

/-- Recording an edit leads to the next version, whatever the limit. -/
theorem currentVersion_push
    (history : History)
    (record : EditRecord) :
    (history.push record).currentVersion = history.currentVersion + 1 := by
  obtain ⟨count, trimmed⟩ :=
    exists_trim_eq_forget { history with records := history.records ++ [record] }
  rw [push, trimmed, currentVersion_forget]
  simp [currentVersion, Nat.add_assoc]

/-- A history starts again at the version it is told. -/
theorem currentVersion_reset
    (history : History)
    (version : Nat)
    (length : Nat) :
    (history.reset version length).currentVersion = version := by
  simp [reset, start, currentVersion]

/--
The change from one version to another, for one way to collapse changes and to
check what they come to.  A version has not changed since itself, whether it is
covered or not; otherwise both versions have to be covered and in order.
-/
def changeBetweenBy?
    (collapse : List ChangeRange → ChangeRange)
    (fits : ChangeRange → Nat → Nat → Bool)
    (history : History)
    (old new : Nat) :
    Option ChangeRange :=
  if old = new then
    some .unchanged
  else if new < old then
    none
  else if history.covers old && history.covers new then do
    let change := collapse ((history.recordsBetween old new).map EditRecord.change)
    let oldLength ← history.lengthAt? old
    let newLength ← history.lengthAt? new
    if fits change oldLength newLength then some change else none
  else
    none

/-- A version has not changed since itself. -/
@[simp]
theorem changeBetweenBy?_self
    (collapse : List ChangeRange → ChangeRange)
    (fits : ChangeRange → Nat → Nat → Bool)
    (history : History)
    (version : Nat) :
    history.changeBetweenBy? collapse fits version version = some .unchanged := by
  rw [changeBetweenBy?, if_pos rfl]

/-- The change from one version to another, of whatever size the records are. -/
def changeBetween? (history : History) (old new : Nat) : Option ChangeRange :=
  history.changeBetweenBy? ChangeRange.wrappingCollapse wrappingFits old new

/-- The same with exact sums, for records of edits of texts. -/
def exactChangeBetween? (history : History) (old new : Nat) : Option ChangeRange :=
  history.changeBetweenBy? ChangeRange.collapse fits old new

end History

end VersionedText
