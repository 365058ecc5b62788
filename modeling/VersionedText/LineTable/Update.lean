import VersionedText.LineTable

namespace VersionedText.LineTable

/-!
# Updating a line table after an edit

Replacing `start..stop` can only create, destroy, join or split breaks that
touch the replaced span.  Those breaks widen the span to a window; the window is
scanned again in the edited text, the breaks before it stay as they are, and the
breaks after it move with the text.
-/

/-- Breaks that end before the edit; they stay as they are. -/
def breaksBefore (table : LineTable) (start : Nat) : List Span :=
  table.breaks.takeWhile fun lineBreak => lineBreak.stop < start

/-- Breaks that do not end before the edit. -/
def breaksFrom (table : LineTable) (start : Nat) : List Span :=
  table.breaks.dropWhile fun lineBreak => lineBreak.stop < start

/-- Breaks that touch the replaced span. -/
def breaksTouching (table : LineTable) (start stop : Nat) : List Span :=
  (table.breaksFrom start).takeWhile fun lineBreak => lineBreak.start ≤ stop

/-- Breaks that begin after the replaced span; they move with the text. -/
def breaksAfter (table : LineTable) (start stop : Nat) : List Span :=
  (table.breaksFrom start).dropWhile fun lineBreak => lineBreak.start ≤ stop

/-- The replaced span, widened by the breaks that touch it. -/
def window (table : LineTable) (start stop : Nat) : Span :=
  let touching := table.breaksTouching start stop
  ⟨match touching.head? with
    | some lineBreak => min start lineBreak.start
    | none => start,
   match touching.getLast? with
    | some lineBreak => max stop lineBreak.stop
    | none => stop⟩

/-- An offset behind the replaced span, as it lies after the edit. -/
def moved (start stop insertedSize offset : Nat) : Nat :=
  offset - (stop - start) + insertedSize

/--
The table after `start..stop` of the old text was replaced by `insertedSize`
bytes, giving `edited`.
-/
def update
    (table : LineTable)
    (edited : Text)
    (start stop insertedSize : Nat) :
    LineTable :=
  let oldWindow := table.window start stop
  let windowStop := moved start stop insertedSize oldWindow.stop
  let rescanned :=
    Text.lineBreaksFrom oldWindow.start (edited.between oldWindow.start windowStop)
  let later := (table.breaksAfter start stop).map fun lineBreak =>
    ⟨moved start stop insertedSize lineBreak.start,
     moved start stop insertedSize lineBreak.stop⟩
  ⟨table.breaksBefore start ++ rescanned ++ later, edited.size⟩

end VersionedText.LineTable
