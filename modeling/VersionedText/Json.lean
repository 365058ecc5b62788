import VersionedText.Binary64

namespace VersionedText

/-!
# JSON values

The messages that a host and an editor exchange are JSON.  A number is an
integer if it is written as one and fits 64 bits, with or without a sign; every
other number is a floating point number.
-/

/-- A JSON value. -/
inductive Json where
  | null
  | boolean (value : Bool)
  | integer (value : Int)
  | float (value : Binary64)
  | string (value : String)
  | array (items : List Json)
  | object (members : List (String × Json))
  deriving Repr, Inhabited

namespace Json

/-- The integers that have a form of their own. -/
def fitsWord (value : Int) : Bool :=
  -(Nat.pow 2 63 : Int) ≤ value && value < (Nat.pow 2 64 : Int)

/-- A number without a sign. -/
def natural (value : Nat) : Json :=
  .integer (.ofNat value)

/-- An array of numbers without a sign. -/
def naturals (values : List Nat) : Json :=
  .array (values.map natural)

/-- The image of an optional value, or null. -/
def ofOption (encode : α → Json) : Option α → Json
  | some value => encode value
  | none => .null

/-- Give a member its value among members that stand in the order of their names. -/
def insertMember (name : String) (value : Json) :
    List (String × Json) → List (String × Json)
  | [] => [(name, value)]
  | (other, known) :: rest =>
      if other = name then
        (name, value) :: rest
      else if name < other then
        (name, value) :: (other, known) :: rest
      else
        (other, known) :: insertMember name value rest

end Json

end VersionedText
