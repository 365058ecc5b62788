import VersionedText.Entries

namespace VersionedText

/-!
# TOML values and the definition of tables

A document fills its tables piece by piece: through headers, through dotted
keys, and through inline tables.  Each table remembers how it came to be,
because that decides who may still add to it.

* A table written inline is complete.
* A table opened by a header takes further tables by headers, but no dotted keys
  from outside.
* A table that a header only passed through may be opened by a header once.
* A table made by a dotted key takes further dotted keys and further tables, but
  no header of its own.
* In an array of tables, names lead into the last element.
-/

namespace Toml

/-- How a table came to be. -/
inductive TableOrigin where
  | inlined
  | header
  | passed
  | dotted
  deriving Repr, DecidableEq

/-- A TOML value. Of floats and times it only matters that they are neither integers nor arrays. -/
inductive Value where
  | string (text : String)
  | integer (value : Int)
  | float
  | boolean (value : Bool)
  | time
  | array (items : List Value)
  | table (origin : TableOrigin) (members : List (String × Value))
  /-- An array of tables, each opened by a header of its own. -/
  | tables (elements : List (List (String × Value)))
  deriving Repr, Inhabited

/-- The members of a table, in the order of their definition. -/
abbrev Members := List (String × Value)

namespace Members

/-- Change the last element of an array of tables. -/
def alterLast (alter : Members → Option Members) : List Members → Option (List Members)
  | [] => none
  | [last] => (alter last).map ([·])
  | first :: rest => (alterLast alter rest).map (first :: ·)

/--
Define a key that may be dotted.  The tables on the way are made by dotted keys,
now or earlier; the innermost of them must not be open to headers.
-/
def define (path : List String) (name : String) (value : Value) (members : Members) :
    Option Members :=
  match path with
  | [] =>
      match members.lookup name with
      | some _ => none
      | none => some (Entries.set name value members)
  | first :: more =>
      match members.lookup first with
      | none =>
          (define more name value []).map fun inner =>
            Entries.set first (.table .dotted inner) members
      | some (.table .dotted inner) =>
          (define more name value inner).map fun inner =>
            Entries.set first (.table .dotted inner) members
      | some (.table .passed inner) =>
          if more.isEmpty then
            none
          else
            (define more name value inner).map fun inner =>
              Entries.set first (.table .passed inner) members
      | some (.tables elements) =>
          if more.isEmpty then
            none
          else
            (alterLast (define more name value) elements).map fun elements =>
              Entries.set first (.tables elements) members
      | some _ => none

/-- Change the table that a header's name leads to, making the tables on the way. -/
def alterAt (alter : Members → Option Members) (path : List String) (members : Members) :
    Option Members :=
  match path with
  | [] => alter members
  | first :: more =>
      match members.lookup first with
      | none =>
          (alterAt alter more []).map fun inner =>
            Entries.set first (.table .passed inner) members
      | some (.table .inlined _) => none
      | some (.table origin inner) =>
          (alterAt alter more inner).map fun inner =>
            Entries.set first (.table origin inner) members
      | some (.tables elements) =>
          (alterLast (alterAt alter more) elements).map fun elements =>
            Entries.set first (.tables elements) members
      | some _ => none

/-- Open a table by its header. -/
def openTable (name : String) (members : Members) : Option Members :=
  match members.lookup name with
  | none => some (Entries.set name (.table .header []) members)
  | some (.table .passed inner) => some (Entries.set name (.table .header inner) members)
  | some _ => none

/-- Open a further element of an array of tables by its header. -/
def openElement (name : String) (members : Members) : Option Members :=
  match members.lookup name with
  | none => some (Entries.set name (.tables [[]]) members)
  | some (.tables elements) => some (Entries.set name (.tables (elements ++ [[]])) members)
  | some _ => none

end Members

end Toml

end VersionedText
