import VersionedText.Json.Decoder

namespace VersionedText.Json

/-!
# Decoding records

A record is written as an object, or as the array of its fields in order.
Members that a record does not have are passed over.

An object is read member by member in the order of their names, and only then is
it found out which fields are missing.  So of several faults the one of the first
member counts, a fault of any member before a missing field, and of several
missing fields the one declared first.
-/

/-- A fault in an object, with its rank among the faults of the object. -/
structure Fault where
  rank : Nat
  error : DecodeError

namespace Fault

/-- The fault that is met first; of two equal ranks, the one that is declared first. -/
def earlier (declared later : Fault) : Fault :=
  if later.rank < declared.rank then later else declared

end Fault

/-- Why an array is not a record. -/
inductive ItemFault where
  /-- The array ends where a field should stand. -/
  | short (read : Nat)
  /-- An item is not the field that stands in its place. -/
  | unreadable (error : DecodeError)

/-- Fields that are read together, by name from members or in order from items. -/
structure Fields (α : Type) where
  /-- How many fields these are. -/
  count : Nat
  ofMembers : Reading → List (String × Json) → Except Fault α
  /-- Reads items when so many of the record have been read, and leaves the others. -/
  ofItems : Reading → Nat → List Json → Except ItemFault (α × List Json)

namespace Fields

/-- No field at all. -/
def none (value : α) : Fields α :=
  ⟨0, fun _ _ => .ok value, fun _ _ items => .ok (value, items)⟩

/-- Read a member and rank its fault by its place. -/
def atMember
    (decoder : Decoder α)
    (reading : Reading)
    (members : List (String × Json))
    (name : String)
    (absent : Except Fault α) :
    Except Fault α :=
  match members.lookup name with
  | some value =>
      (decoder reading value).mapError fun error =>
        ⟨members.findIdx fun member => member.1 == name, error⟩
  | .none => absent

/-- Read the next item as a field. -/
def atItem
    (decoder : Decoder α)
    (reading : Reading)
    (absent : Except ItemFault α) :
    List Json → Except ItemFault (α × List Json)
  | [] => absent.map fun value => (value, [])
  | item :: rest =>
      ((decoder reading item).mapError ItemFault.unreadable).map fun value => (value, rest)

/-- A field that has to be there. -/
def required (name : String) (decoder : Decoder α) : Fields α where
  count := 1
  ofMembers reading members :=
    atMember decoder reading members name (.error ⟨members.length, .missingField name⟩)
  ofItems reading read := atItem decoder reading (.error (.short read))

/-- A field that may be null, and in an object may be left out. -/
def optional (name : String) (decoder : Decoder α) : Fields (Option α) where
  count := 1
  ofMembers reading members :=
    atMember decoder.nullable reading members name (.ok .none)
  ofItems reading read := atItem decoder.nullable reading (.error (.short read))

/-- A field with a value of its own when it is left out. -/
def withDefault (name : String) (default : α) (decoder : Decoder α) : Fields α where
  count := 1
  ofMembers reading members := atMember decoder reading members name (.ok default)
  ofItems reading _ := atItem decoder reading (.ok default)

/-- Fields followed by further fields. -/
def both (first : Fields α) (second : Fields β) : Fields (α × β) where
  count := first.count + second.count
  ofMembers reading members :=
    match first.ofMembers reading members, second.ofMembers reading members with
    | .ok value, .ok value' => .ok (value, value')
    | .ok _, .error fault => .error fault
    | .error fault, .ok _ => .error fault
    | .error fault, .error fault' => .error (fault.earlier fault')
  ofItems reading read items := do
    let (value, items) ← first.ofItems reading read items
    let (value', items) ← second.ofItems reading (read + first.count) items
    return ((value, value'), items)

/-- Fields whose values are put together. -/
def map (function : α → β) (fields : Fields α) : Fields β where
  count := fields.count
  ofMembers reading members := (fields.ofMembers reading members).map function
  ofItems reading read items :=
    (fields.ofItems reading read items).map fun (value, rest) => (function value, rest)

/-- Fields that only have to be well-formed. -/
def check (fields : Fields α) : Fields Unit :=
  fields.map fun _ => ()

/-- All of several fields, which only have to be well-formed. -/
def all (fields : List (Fields Unit)) : Fields Unit :=
  fields.foldr (fun first rest => (first.both rest).check) (none ())

end Fields

namespace Decoder

/-- A record with a title for messages. -/
def record (title : String) (fields : Fields α) : Decoder α
  | reading, .object members => (fields.ofMembers reading members).mapError Fault.error
  | reading, .array items =>
      match fields.ofItems reading 0 items with
      | .error (.short read) =>
          .error (.invalidLength read (title ++ " with " ++ DecodeError.elements fields.count))
      | .error (.unreadable error) => .error error
      | .ok (value, []) => .ok value
      | .ok (_, rest) =>
          .error (DecodeError.tooLong reading items.length (items.length - rest.length))
  | _, value => .error (.invalidType value title)

/--
A record that shares its object with others: after its own fields the others
read theirs from the same members, which by then have been set aside.
-/
def merged (title : String) (own : Fields α) (others : List (Fields Unit)) : Decoder α
  | reading, .object members => do
      let value ← (own.ofMembers reading members).mapError Fault.error
      others.forM fun fields => (fields.ofMembers .deferred members).mapError Fault.error
      return value
  | _, value => .error (.invalidType value title)

/-- The name of a form. -/
def formName (forms : List (String × α)) : Json → Except DecodeError α
  | .string name => nameIn forms name
  | value => .error (.invalidType value "variant identifier")

/--
A record of one of several forms.  An object names its form among its members, an
array in front of its fields; the fields are set aside until the form is known.
-/
def tagged (title tag : String) (forms : List (String × Decoder α)) : Decoder α
  | _, .object members =>
      match members.lookup tag with
      | some name => do
          let form ← formName forms name
          form .deferred (.object members)
      | none => .error (.missingField tag)
  | _, .array [] => .error (.missingField tag)
  | _, .array (name :: fields) => do
      let form ← formName forms name
      form .deferred (.array fields)
  | _, value => .error (.invalidType value title)

end Decoder

end VersionedText.Json
