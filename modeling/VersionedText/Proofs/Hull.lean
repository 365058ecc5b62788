import Mathlib.Order.Bounds.Basic
import VersionedText.Proofs.Revision

namespace VersionedText

/-!
# Collapsed changes are hulls

A change leaves a head and a tail of a text alone.  Of two changes in a row the
smaller head and the smaller tail stay untouched, and that is what their
composition says: its span reaches exactly as far as it has to.  So the change
between two versions of a document is the hull of the edits in between: it
leaves alone at either end what every one of them left alone, and no less.
-/

namespace ChangeRange

/-- The change leaves a tail alone, of a text and of what becomes of it. -/
def Leaves (change : ChangeRange) (tail oldLength newLength : Nat) : Prop :=
  oldLength = change.span.stop + tail ∧ newLength = change.newSpan.stop + tail

/-- Of the tails that two changes leave alone, the smaller is left alone by both. -/
theorem Leaves.compose
    {first second : ChangeRange}
    {firstTail secondTail oldLength middleLength newLength : Nat}
    (firstLeaves : first.Leaves firstTail oldLength middleLength)
    (secondLeaves : second.Leaves secondTail middleLength newLength) :
    (first.compose second).Leaves (min firstTail secondTail) oldLength newLength := by
  obtain ⟨oldShape, middleShape⟩ := firstLeaves
  obtain ⟨sameMiddle, newShape⟩ := secondLeaves
  simp only [newSpan] at middleShape newShape
  simp only [Leaves, ChangeRange.compose, newSpan]
  omega

end ChangeRange

namespace EditRecord

/-- What a record left alone at the end of the text that it found. -/
def tail (record : EditRecord) (length : Nat) : Nat :=
  length - record.span.stop

/-- What successive records left alone at the end, the first of them made at the given version. -/
def tails (textAt : Nat → Text) (version : Nat) (records : List EditRecord) : List Nat :=
  records.mapIdx fun index record => record.tail (textAt (version + index)).size

theorem tails_cons
    (textAt : Nat → Text)
    (version : Nat)
    (record : EditRecord)
    (later : List EditRecord) :
    tails textAt version (record :: later) =
      record.tail (textAt version).size :: tails textAt (version + 1) later := by
  simp only [tails, List.mapIdx_cons, Nat.add_zero, Nat.add_assoc, Nat.add_comm 1]

theorem Rewrites.leaves
    {record : EditRecord}
    {old new : Text}
    (rewrites : record.Rewrites old new) :
    record.change.Leaves (record.tail old.size) old.size new.size := by
  obtain ⟨head, removed, inserted, tail, rfl, rfl, shape⟩ :=
    (ChangeRange.explains_iff_parts _ _ _).mp rewrites.explains
  have span : record.span = ⟨head.size, head.size + removed.size⟩ :=
    congrArg ChangeRange.span shape
  rw [shape]
  simp only [ChangeRange.Leaves, ChangeRange.newSpan, EditRecord.tail, span, Text.size_append]
  omega

/-- Folding records into a change takes the least of all heads and of all tails. -/
theorem Tell.foldl_compose
    {textAt : Nat → Text}
    {version : Nat}
    {records : List EditRecord}
    {first : ChangeRange}
    {tail oldLength : Nat}
    (tell : Tell textAt version records)
    (leaves : first.Leaves tail oldLength (textAt version).size) :
    let folded := (records.map change).foldl ChangeRange.compose first
    folded.span.start =
        (records.map fun record => record.span.start).foldl min first.span.start ∧
      folded.Leaves ((tails textAt version records).foldl min tail) oldLength
        (textAt (version + records.length)).size := by
  induction records generalizing version first tail with
  | nil =>
      exact ⟨rfl, leaves⟩
  | cons record later inductionHypothesis =>
      have next := leaves.compose (tell 0 record rfl).leaves
      have rest := inductionHypothesis (tell.drop 1) next
      have sameEnd : version + 1 + later.length = version + (record :: later).length := by
        simp only [List.length_cons]
        omega
      rw [sameEnd] at rest
      rw [tails_cons]
      exact rest

/-- The collapse of successive records is their hull. -/
theorem Tell.collapse
    {textAt : Nat → Text}
    {version : Nat}
    {records : List EditRecord}
    (tell : Tell textAt version records)
    (occupied : records ≠ []) :
    let collapsed := ChangeRange.collapse (records.map change)
    ∃ tail,
      (records.map fun record => record.span.start).min? = some collapsed.span.start ∧
        (tails textAt version records).min? = some tail ∧
        collapsed.Leaves tail (textAt version).size
          (textAt (version + records.length)).size := by
  cases records with
  | nil =>
      exact absurd rfl occupied
  | cons record later =>
      obtain ⟨start, leaves⟩ :=
        (show Tell textAt (version + 1) later from tell.drop 1).foldl_compose
          (tell 0 record rfl).leaves
      have sameEnd : version + 1 + later.length = version + (record :: later).length := by
        simp only [List.length_cons]
        omega
      rw [sameEnd] at leaves
      refine ⟨_, ?_, ?_, leaves⟩
      · rw [List.map_cons, List.min?_cons']
        exact congrArg some start.symm
      · rw [tails_cons, List.min?_cons']
        rfl

end EditRecord

namespace History

/-- The sizes of what the records of a window left alone at the beginning. -/
def heads (history : History) (old new : Nat) : Set Nat :=
  { head |
    ∃ record ∈ history.recordsBetween old new, record.span.start = head }

/-- The sizes of what the records of a window left alone at the end of the texts they found. -/
def tails (history : History) (old new : Nat) : Set Nat :=
  { tail |
    ∃ (index : Nat) (record : EditRecord) (length : Nat),
      (history.recordsBetween old new)[index]? = some record ∧
        history.lengthAt? (old + index) = some length ∧
        length - record.span.stop = tail }

/-- The tails of a window are those that its records left of the texts by version. -/
theorem Recounts.mem_tails_iff
    {history : History}
    {textAt : Nat → Text}
    {old new : Nat}
    (recounts : history.Recounts textAt)
    (fromBase : history.baseVersion ≤ old)
    (untilCurrent : new ≤ history.currentVersion)
    (tail : Nat) :
    tail ∈ history.tails old new ↔
      tail ∈ EditRecord.tails textAt old (history.recordsBetween old new) := by
  rw [EditRecord.tails, List.mem_mapIdx]
  have found
      {index : Nat}
      (inside : index < (history.recordsBetween old new).length) :
      history.lengthAt? (old + index) = some (textAt (old + index)).size := by
    rw [length_recordsBetween fromBase untilCurrent] at inside
    exact recounts.lengthAt?_eq ((covers_iff _ _).mpr ⟨by omega, by omega⟩)
  constructor
  · rintro ⟨index, record, length, atIndex, lengthFound, rfl⟩
    obtain ⟨inside, rfl⟩ := List.getElem?_eq_some_iff.mp atIndex
    obtain rfl := Option.some.inj ((found inside).symm.trans lengthFound)
    exact ⟨index, inside, rfl⟩
  · rintro ⟨index, inside, rfl⟩
    exact ⟨index, _, _, List.getElem?_eq_getElem inside, found inside, rfl⟩

/-- Between covered versions the change is known, and it is the hull of the window. -/
theorem Recounts.exactChangeBetween?_eq_hull
    {history : History}
    {textAt : Nat → Text}
    {old new : Nat}
    (recounts : history.Recounts textAt)
    (fromBase : history.baseVersion ≤ old)
    (inOrder : old < new)
    (untilCurrent : new ≤ history.currentVersion) :
    ∃ (change : ChangeRange) (tail : Nat),
      history.exactChangeBetween? old new = some change ∧
        change.Leaves tail (textAt old).size (textAt new).size ∧
        IsLeast (history.heads old new) change.span.start ∧
        IsLeast (history.tails old new) tail := by
  obtain ⟨change, known, -⟩ :=
    recounts.exactChangeBetween?_of_covers fromBase (Nat.le_of_lt inOrder) untilCurrent
  have steps := length_recordsBetween fromBase untilCurrent
  have occupied : history.recordsBetween old new ≠ [] := by
    rw [← List.length_pos_iff, steps]
    omega
  obtain ⟨tail, leastHead, leastTail, leaves⟩ :=
    (recounts.tell_recordsBetween fromBase new).collapse occupied
  have newShape : old + (new - old) = new := by omega
  rw [← eq_collapse_of_exactChangeBetween? (Nat.ne_of_lt inOrder) known] at leastHead leaves
  rw [steps, newShape] at leaves
  refine ⟨change, tail, known, leaves, ?_, ?_⟩
  · obtain ⟨among, below⟩ := List.min?_eq_some_iff.mp leastHead
    refine ⟨List.mem_map.mp among, ?_⟩
    rintro head headOf
    exact below head (List.mem_map.mpr headOf)
  · obtain ⟨among, below⟩ := List.min?_eq_some_iff.mp leastTail
    refine ⟨(recounts.mem_tails_iff fromBase untilCurrent tail).mpr among, ?_⟩
    intro other otherOf
    exact below other ((recounts.mem_tails_iff fromBase untilCurrent other).mp otherOf)

end History

namespace Document

/--
Whatever revisions a document has gone through, the change between two versions
that its history covers is known, and it leaves alone exactly the smallest head
and the smallest tail that any edit in between left alone.
-/
theorem changeBetween?_isHull
    {uri : Uri}
    {opening : Nat}
    {initial : Text}
    {limit : Option Nat}
    {revisions : List Revision}
    {old new : Nat}
    (fromBase :
      ((create uri opening initial limit).reviseAll revisions).history.baseVersion ≤ old)
    (inOrder : old < new)
    (untilCurrent : new ≤ ((create uri opening initial limit).reviseAll revisions).version) :
    let document := (create uri opening initial limit).reviseAll revisions
    ∃ (change : ChangeRange) (oldLength newLength tail : Nat),
      document.changeBetween? old new = some change ∧
        document.history.lengthAt? old = some oldLength ∧
        document.history.lengthAt? new = some newLength ∧
        (oldLength = change.span.stop + tail ∧ newLength = change.newSpan.stop + tail) ∧
        IsLeast (document.history.heads old new) change.span.start ∧
        IsLeast (document.history.tails old new) tail := by
  intro document
  obtain ⟨textAt, follows, -, -⟩ :=
    (Follows.create uri opening initial limit).reviseAll revisions
  have untilLast : new ≤ document.history.currentVersion := by
    rw [follows.currentVersion]
    exact untilCurrent
  obtain ⟨change, tail, known, leaves, leastHead, leastTail⟩ :=
    follows.recounts.exactChangeBetween?_eq_hull fromBase inOrder untilLast
  have oldCovered : document.history.covers old = true :=
    (History.covers_iff _ _).mpr ⟨fromBase, Nat.le_trans (Nat.le_of_lt inOrder) untilLast⟩
  have newCovered : document.history.covers new = true :=
    (History.covers_iff _ _).mpr ⟨Nat.le_trans fromBase (Nat.le_of_lt inOrder), untilLast⟩
  exact ⟨change, _, _, tail, known, follows.recounts.lengthAt?_eq oldCovered,
    follows.recounts.lengthAt?_eq newCovered, leaves, leastHead, leastTail⟩

/--
Of three edits that overlap, after a fourth that is forgotten: the second leaves
the smallest head alone, and the last the smallest tail.
-/
theorem changeBetween?_of_overlapping_edits :
    let document :=
      (create .untitled 1 ['a', 'b', 'c', 'd', 'e', 'f'] (some 3)).reviseAll
        [.edit 0 0 ['x'], .edit 2 4 ['é'], .edit 1 4 [], .edit 3 3 ['y', 'z']]
    (document.history.baseVersion ≤ 2 ∧ 2 < 5 ∧ 5 ≤ document.version) ∧
      document.changeBetween? 2 5 = some ⟨⟨1, 6⟩, 4⟩ ∧
      IsLeast (document.history.heads 2 5) 1 ∧
      IsLeast (document.history.tails 2 5) 1 := by
  intro document
  have fromBase : document.history.baseVersion ≤ 2 := by
    simp only [document]
    decide
  have untilCurrent : 5 ≤ document.version := by
    simp only [document]
    decide
  have known : document.changeBetween? 2 5 = some ⟨⟨1, 6⟩, 4⟩ := by
    simp only [document]
    decide
  have measured : document.history.lengthAt? 2 = some 7 := by
    simp only [document]
    decide
  obtain ⟨change, oldLength, newLength, tail, alsoKnown, oldMeasured, -, ⟨oldShape, -⟩,
      leastHead, leastTail⟩ :=
    changeBetween?_isHull fromBase (by decide) untilCurrent
  obtain rfl := Option.some.inj (known.symm.trans alsoKnown)
  obtain rfl := Option.some.inj (measured.symm.trans oldMeasured)
  obtain rfl : 1 = tail := by
    simp only at oldShape
    omega
  exact ⟨⟨fromBase, by decide, untilCurrent⟩, known, leastHead, leastTail⟩

end Document

end VersionedText
