namespace VersionedText

/-!
# Byte spans

A span is a pair of byte offsets read as a half-open range.  Spans that come
from outside may be inverted, so being ordered is a property of a span and not
part of its type.
-/

/-- The byte range from `start` up to, but not including, `stop`. -/
structure Span where
  start : Nat
  stop : Nat
  deriving Repr, DecidableEq, Inhabited

namespace Span

/-- Length of an ordered span. -/
def length (span : Span) : Nat :=
  span.stop - span.start

/-- A span is empty when its two ends meet. -/
def isEmpty (span : Span) : Bool :=
  span.start == span.stop

/-- Whether an offset lies in the half-open range. -/
def contains (span : Span) (offset : Nat) : Bool :=
  span.start ≤ offset && offset < span.stop

/-- A span whose ends are in order. -/
def Ordered (span : Span) : Prop :=
  span.start ≤ span.stop

instance (span : Span) : Decidable span.Ordered :=
  inferInstanceAs (Decidable (span.start ≤ span.stop))

/-- Move both ends to the right. -/
def shift (span : Span) (distance : Nat) : Span :=
  ⟨span.start + distance, span.stop + distance⟩

end Span

end VersionedText
