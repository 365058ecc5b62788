import VersionedText.Offset
import VersionedText.Span
import VersionedText.Text

namespace VersionedText

/-!
# Change ranges

A change range says that the bytes of `span` in an old text gave way to
`newLength` bytes of a new text.  Successive ranges compose into one range over
the oldest text, and a chain of edits collapses into the range of their net
effect.  The lengths of texts are offsets, and so are all sums of them that are
taken on the way; of ranges of any other size, sums may be out of bounds, and the
wrapping composition says what becomes of them.
-/

/-- A replaced span of an old text and the length of what replaced it. -/
structure ChangeRange where
  span : Span
  newLength : Nat
  deriving Repr, DecidableEq, Inhabited

namespace ChangeRange

/-- The range that stands for no change at all. -/
def unchanged : ChangeRange :=
  ⟨⟨0, 0⟩, 0⟩

/-- The span that the replacement takes up in the new text. -/
def newSpan (change : ChangeRange) : Span :=
  ⟨change.span.start, change.span.start + change.newLength⟩

/-- Nothing was removed and nothing was put in. -/
def isUnchanged (change : ChangeRange) : Bool :=
  change.span.isEmpty && change.newLength == 0

/-- Signed growth of the text. -/
def lengthDelta (change : ChangeRange) : Int :=
  (change.newLength : Int) - ((change.span.stop : Int) - change.span.start)

/--
One range for a change followed by another.  What the second change touches
beyond the first replacement lies in text that the first left alone, so it maps
back byte for byte; the same holds of the first replacement beyond the second
span.
-/
def compose (first second : ChangeRange) : ChangeRange :=
  let start := min first.span.start second.span.start
  let oldStop := first.span.stop + (second.span.stop - first.newSpan.stop)
  let newStop := second.newSpan.stop + (first.newSpan.stop - second.span.stop)
  ⟨⟨start, oldStop⟩, newStop - start⟩

/-- Net effect of a chain of changes, oldest first. -/
def collapse : List ChangeRange → ChangeRange
  | [] => unchanged
  | first :: later => later.foldl compose first

/--
Composition with the arithmetic of offsets, for ranges of any size.  Only the two
differences that stop at zero are taken as they are.
-/
def wrappingCompose (first second : ChangeRange) : ChangeRange :=
  let firstStop := Offset.add first.span.start first.newLength
  let secondStop := Offset.add second.span.start second.newLength
  let start := min first.span.start second.span.start
  let oldStop := Offset.add first.span.stop (second.span.stop - firstStop)
  let newStop := Offset.add secondStop (firstStop - second.span.stop)
  ⟨⟨start, oldStop⟩, Offset.sub newStop start⟩

/-- Net effect of a chain of changes of any size, oldest first. -/
def wrappingCollapse : List ChangeRange → ChangeRange
  | [] => unchanged
  | first :: later => later.foldl wrappingCompose first

/-- Net effect of a nonempty chain, bracketed from the right; none for the empty chain. -/
def collapseRight? : List ChangeRange → Option ChangeRange
  | [] => none
  | change :: later =>
      match collapseRight? later with
      | none => some change
      | some rest => some (change.compose rest)

/--
Rebuild the new text from the old one, taking from the new text only the bytes
that the range marks as new.  There is no answer when a cut falls outside its
text or inside a character.
-/
def rebuild? (change : ChangeRange) (old new : Text) : Option Text := do
  let head ← old.upTo? change.span.start
  let middle ← new.slice? change.newSpan.start change.newSpan.stop
  let tail ← old.onward? change.span.stop
  return head ++ middle ++ tail

end ChangeRange

end VersionedText
