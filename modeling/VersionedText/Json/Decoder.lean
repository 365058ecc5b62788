import VersionedText.Json.Printer
import VersionedText.Quotation

namespace VersionedText.Json

/-!
# Decoding JSON values

A decoder reads values as messages of one kind, or says what was found instead
of what was expected.  A value is read either directly or deferred, when it had
to be set aside until the form of its surroundings was known; the two differ in a
few wordings, and in that a deferred empty object may stand for null.
-/

/-- Whether a value is read as it comes or after it was set aside. -/
inductive Reading where
  | direct
  | deferred
  deriving Repr, DecidableEq

/-- Why a JSON value is not the message that was expected. -/
inductive DecodeError where
  /-- A value of another kind. -/
  | invalidType (found : Json) (expected : String)
  /-- A value of the right kind that is out of bounds. -/
  | invalidValue (found : Json) (expected : String)
  /-- An array with too few or too many items. -/
  | invalidLength (length : Nat) (expected : String)
  /-- A field without which the record makes no sense. -/
  | missingField (name : String)
  /-- A name that is none of those known. -/
  | unknownVariant (name : String) (known : List String)
  /-- A value that fits none of several forms. -/
  | noForm (choice : String)
  /-- A text that cannot be read, with the reason. -/
  | unreadable (text reason : String)
  deriving Repr

namespace DecodeError

/-- A name as it appears in a message. -/
def marked (name : String) : String :=
  "\x60" ++ name ++ "\x60"

/-- What a message says of a value that it did not expect. -/
def describe : Json → String
  | .null => "null"
  | .boolean value => "boolean " ++ marked (if value then "true" else "false")
  | .integer value => "integer " ++ marked (toString value)
  | .float value => "floating point " ++ marked value.text
  | .string text => "string " ++ Quotation.quote text
  | .array _ => "sequence"
  | .object _ => "map"

/-- The names that would have been known. -/
def listNames : List String → String
  | [] => "there are no variants"
  | [name] => "expected " ++ marked name
  | [first, second] => "expected " ++ marked first ++ " or " ++ marked second
  | names => "expected one of " ++ ", ".intercalate (names.map marked)

/-- The wording of a decoding error. -/
def message : DecodeError → String
  | .invalidType found expected =>
      "invalid type: " ++ describe found ++ ", expected " ++ expected
  | .invalidValue found expected =>
      "invalid value: " ++ describe found ++ ", expected " ++ expected
  | .invalidLength length expected =>
      "invalid length " ++ toString length ++ ", expected " ++ expected
  | .missingField name => "missing field " ++ marked name
  | .unknownVariant name known => "unknown variant " ++ marked name ++ ", " ++ listNames known
  | .noForm choice => "data did not match any variant of untagged enum " ++ choice
  | .unreadable text reason => reason ++ ": " ++ Quotation.quote text

/-- A count of elements in a wording. -/
def elements (count : Nat) : String :=
  if count = 1 then "1 element" else toString count ++ " elements"

/-- An array of `length` items of which only the first `read` have a meaning. -/
def tooLong (reading : Reading) (length read : Nat) : DecodeError :=
  match reading with
  | .direct => .invalidLength length "fewer elements in array"
  | .deferred => .invalidLength length (elements read ++ " in sequence")

end DecodeError

/-- A reading of JSON values as messages of one kind. -/
abbrev Decoder (α : Type) := Reading → Json → Except DecodeError α

namespace Decoder

/-- Read a value that was not set aside. -/
def run (decoder : Decoder α) (value : Json) : Except DecodeError α :=
  decoder .direct value

/-- A decoder whose messages are mapped. -/
def map (function : α → β) (decoder : Decoder α) : Decoder β :=
  fun reading value => (decoder reading value).map function

/-- A decoder that only says whether a value is well-formed. -/
def check (decoder : Decoder α) : Decoder Unit :=
  decoder.map fun _ => ()

/-- Any value. -/
def any : Decoder Json :=
  fun _ value => .ok value

/-- A boolean. -/
def boolean : Decoder Bool
  | _, .boolean value => .ok value
  | _, value => .error (.invalidType value "a boolean")

/-- A string. -/
def string : Decoder String
  | _, .string text => .ok text
  | _, value => .error (.invalidType value "a string")

/-- An integer within bounds, the upper one excluded. -/
def integerWithin (least bound : Int) (title : String) : Decoder Int
  | _, .integer value =>
      if least ≤ value ∧ value < bound then
        .ok value
      else
        .error (.invalidValue (.integer value) title)
  | _, value => .error (.invalidType value title)

/-- A number without a sign below a bound. -/
def naturalBelow (bound : Nat) (title : String) : Decoder Nat
  | _, .integer (.ofNat value) =>
      if value < bound then .ok value else .error (.invalidValue (natural value) title)
  | _, .integer value => .error (.invalidValue (.integer value) title)
  | _, value => .error (.invalidType value title)

/-- Offsets and lengths take 64 bits. -/
def offsetBound : Nat :=
  Nat.pow 2 64

/-- Versions, lines and columns take 32 bits. -/
def wordBound : Nat :=
  Nat.pow 2 32

/-- An offset or a length. -/
def offset : Decoder Nat :=
  naturalBelow offsetBound "usize"

/-- A number of 32 bits without a sign. -/
def word : Decoder Nat :=
  naturalBelow wordBound "u32"

/-- A number of 32 bits with a sign. -/
def signedWord : Decoder Int :=
  integerWithin (-(Nat.pow 2 31 : Int)) (Nat.pow 2 31 : Int) "i32"

/-- A number, with a fraction or without; its value has no use. -/
def fraction : Decoder Unit
  | _, .integer _ => .ok ()
  | _, .float _ => .ok ()
  | _, value => .error (.invalidType value "f32")

/-- A value that may be null. -/
def nullable (decoder : Decoder α) : Decoder (Option α)
  | _, .null => .ok none
  | reading, value => (decoder reading value).map some

/-- An array of messages of one kind. -/
def list (decoder : Decoder α) : Decoder (List α)
  | reading, .array items => items.mapM (decoder reading)
  | _, value => .error (.invalidType value "a sequence")

/-- An object whose members have any names and values of one kind. -/
def dictionary (decoder : Decoder α) : Decoder (List (String × α))
  | reading, .object members =>
      members.mapM fun member => do
        return (member.1, ← decoder reading member.2)
  | _, value => .error (.invalidType value "a map")

/-- The first of several decoders that reads a value. -/
def oneOf (choice : String) : List (Decoder α) → Decoder α
  | [], _, _ => .error (.noForm choice)
  | decoder :: others, reading, value =>
      match decoder .deferred value with
      | .ok found => .ok found
      | .error _ => oneOf choice others reading value

/-- The meaning of a name among those known. -/
def nameIn (names : List (String × α)) (name : String) : Except DecodeError α :=
  match names.lookup name with
  | some found => .ok found
  | none => .error (.unknownVariant name (names.map (·.1)))

/-- A value that stands for nothing beside a name. -/
def nothing : Decoder Unit
  | _, .null => .ok ()
  | .deferred, .object [] => .ok ()
  | _, value => .error (.invalidType value "unit")

/-- One of several names: the name itself, or an object with nothing under that name. -/
def named (names : List (String × α)) : Decoder α
  | _, .string name => nameIn names name
  | reading, .object [(name, value)] => do
      let found ← nameIn names name
      nothing reading value
      return found
  | _, .object members => .error (.invalidValue (.object members) "map with a single key")
  | _, value => .error (.invalidType value "string or map")

/-- Numbers below the bound read back. -/
theorem naturalBelow_natural
    {bound value : Nat}
    (title : String)
    (reading : Reading)
    (small : value < bound) :
    naturalBelow bound title reading (natural value) = .ok value := by
  simp [naturalBelow, natural, small]

/-- Offsets and lengths read back. -/
theorem offset_natural
    {value : Nat}
    (reading : Reading)
    (small : value < offsetBound) :
    offset reading (natural value) = .ok value :=
  naturalBelow_natural "usize" reading small

/-- Versions, lines and columns read back. -/
theorem word_natural
    {value : Nat}
    (reading : Reading)
    (small : value < wordBound) :
    word reading (natural value) = .ok value :=
  naturalBelow_natural "u32" reading small

end Decoder

end VersionedText.Json
