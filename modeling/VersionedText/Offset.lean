namespace VersionedText.Offset

/-!
# Arithmetic of offsets

Offsets and lengths are held in 64 bits.  A sum that is out of bounds starts over
from zero, and a difference below zero starts over from the greatest offset.
Within bounds both are exact.
-/

/-- The least number that is too great for an offset. -/
def bound : Nat :=
  Nat.pow 2 64

/-- The sum of two offsets, counted on from zero where it is out of bounds. -/
def add (first second : Nat) : Nat :=
  (first + second) % bound

/-- The difference of two offsets, counted down from the bound where it is below zero. -/
def sub (first second : Nat) : Nat :=
  (first + (bound - second)) % bound

/-- A sum within bounds is exact. -/
theorem add_eq
    {first second : Nat}
    (bounded : first + second < bound) :
    add first second = first + second :=
  Nat.mod_eq_of_lt bounded

/-- The difference of an offset and one that is no greater is exact. -/
theorem sub_eq
    {first second : Nat}
    (ordered : second ≤ first)
    (bounded : first < bound) :
    sub first second = first - second := by
  have once : first + (bound - second) = bound + (first - second) := by
    omega
  rw [sub, once, Nat.add_mod_left, Nat.mod_eq_of_lt (by omega)]

end VersionedText.Offset
