namespace VersionedText

/-!
# Texts measured in bytes and in UTF-16 units

A text is the list of its characters.  Offsets into a text count the bytes of
its UTF-8 form, and columns shown to an editor count UTF-16 units, so both
measures are additive functions of the character list.  Cutting a text at an
offset never loses a character: `before` and `after` always append back to the
text, and an offset is a boundary exactly when `before` is as long as asked.
-/

/-- A text, as the sequence of its characters. -/
abbrev Text := List Char

namespace Text

/-- Length of a text in UTF-8 bytes. -/
def size : Text → Nat
  | [] => 0
  | character :: rest => character.utf8Size + size rest

/-- UTF-16 units of one character: two above the basic plane. -/
def characterUnits (character : Char) : Nat :=
  if character.val < 0x10000 then 1 else 2

/-- Length of a text in UTF-16 units. -/
def units : Text → Nat
  | [] => 0
  | character :: rest => characterUnits character + units rest

/-- The characters that begin before a byte offset. -/
def before : Text → Nat → Text
  | [], _ => []
  | character :: rest, offset =>
      if offset = 0 then
        []
      else
        character :: before rest (offset - character.utf8Size)

/-- The characters that begin at or after a byte offset. -/
def after : Text → Nat → Text
  | [], _ => []
  | character :: rest, offset =>
      if offset = 0 then
        character :: rest
      else
        after rest (offset - character.utf8Size)

/-- An offset is a boundary when no character straddles it. -/
def isBoundary : Text → Nat → Bool
  | [], offset => offset == 0
  | character :: rest, offset =>
      offset == 0 ||
        (character.utf8Size ≤ offset &&
          isBoundary rest (offset - character.utf8Size))

/-- The characters that begin in a half-open byte range. -/
def between (text : Text) (start stop : Nat) : Text :=
  before (after text start) (stop - start)

/-- The part of a text up to a boundary. -/
def upTo? (text : Text) (offset : Nat) : Option Text :=
  if text.isBoundary offset then some (before text offset) else none

/-- The part of a text from a boundary on. -/
def onward? (text : Text) (offset : Nat) : Option Text :=
  if text.isBoundary offset then some (after text offset) else none

/-- The part of a text between two boundaries that are in order. -/
def slice? (text : Text) (start stop : Nat) : Option Text :=
  if start ≤ stop ∧ text.isBoundary start ∧ text.isBoundary stop then
    some (between text start stop)
  else
    none

/-- Put new characters in the place of a byte range. -/
def splice (text : Text) (start stop : Nat) (inserted : Text) : Text :=
  before text start ++ inserted ++ after text stop

/-- Byte length of the leading characters that make up exactly so many UTF-16 units. -/
def offsetOfUnits? : Text → Nat → Option Nat
  | [], wanted => if wanted = 0 then some 0 else none
  | character :: rest, wanted =>
      if wanted = 0 then
        some 0
      else if wanted < characterUnits character then
        none
      else
        (offsetOfUnits? rest (wanted - characterUnits character)).map
          (character.utf8Size + ·)

@[simp]
theorem size_nil : size [] = 0 :=
  rfl

@[simp]
theorem size_cons
    (character : Char)
    (rest : Text) :
    size (character :: rest) = character.utf8Size + size rest :=
  rfl

/-- Byte lengths add up. -/
@[simp]
theorem size_append
    (first second : Text) :
    size (first ++ second) = size first + size second := by
  induction first with
  | nil =>
      simp
  | cons character rest inductionHypothesis =>
      simp [inductionHypothesis, Nat.add_assoc]

/-- UTF-16 lengths add up. -/
@[simp]
theorem units_append
    (first second : Text) :
    units (first ++ second) = units first + units second := by
  induction first with
  | nil =>
      simp [units]
  | cons character rest inductionHypothesis =>
      simp [units, inductionHypothesis, Nat.add_assoc]

/-- A cut loses nothing. -/
@[simp]
theorem before_append_after
    (text : Text)
    (offset : Nat) :
    before text offset ++ after text offset = text := by
  induction text generalizing offset with
  | nil =>
      rfl
  | cons character rest inductionHypothesis =>
      by_cases atStart : offset = 0
      · simp [before, after, atStart]
      · simp [before, after, atStart, inductionHypothesis]

/-- A boundary is an offset that some leading part of the text reaches exactly. -/
theorem isBoundary_iff_size_before
    (text : Text)
    (offset : Nat) :
    isBoundary text offset = true ↔ size (before text offset) = offset := by
  induction text generalizing offset with
  | nil =>
      cases offset <;> simp [isBoundary, before]
  | cons character rest inductionHypothesis =>
      by_cases atStart : offset = 0
      · simp [isBoundary, before, atStart]
      · have later := inductionHypothesis (offset - character.utf8Size)
        by_cases fits : character.utf8Size ≤ offset
        · simp only [isBoundary, before, atStart, if_false, size_cons]
          simp only [atStart, fits, beq_iff_eq, Bool.or_eq_true, Bool.and_eq_true,
            decide_true, true_and, false_or, later]
          omega
        · simp only [isBoundary, before, atStart, if_false, size_cons]
          simp only [atStart, fits, beq_iff_eq, Bool.or_eq_true, Bool.and_eq_true,
            decide_false, false_or, false_and, Bool.false_eq_true, false_iff]
          omega

end Text

end VersionedText
