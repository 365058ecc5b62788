import VersionedText.Toml.Numeral
import VersionedText.Toml.Quoted

namespace VersionedText.Toml

/-!
# Reading TOML documents

A document is a sequence of lines: table headers, key-value pairs, comments and
blank lines.  Values nest, so the readers of values, array items and inline
members call one another, each call spending one unit of a budget; twice the
length of the input is always enough.
-/

/-- Drop a comment up to the end of its line. -/
def skipComment : List Char → List Char
  | '#' :: rest => rest.dropWhile isTextCharacter
  | input => input

/-- Drop blanks, comments and line ends; a comment has to be ended by a line end. -/
def skipLines? : Nat → List Char → Option (List Char)
  | 0, _ => none
  | budget + 1, input =>
      match skipBlanks input with
      | '\n' :: rest => skipLines? budget rest
      | '#' :: rest =>
          match skipComment ('#' :: rest) with
          | '\n' :: rest => skipLines? budget rest
          | _ => none
      | rest => some rest

mutual

/-- A value. -/
def value? : Nat → Nat → List Char → Option (Value × List Char)
  | 0, _, _ => none
  | budget + 1, depth, input =>
      match input with
      | [] => none
      | first :: rest =>
          if first == basicMark || first == literalMark then
            (string? input).map fun found => (.string (String.ofList found.1), found.2)
          else if first == '[' then
            if depthLimit ≤ depth + 1 then
              none
            else
              match skipLines? (rest.length + 1) rest with
              | none => none
              | some (']' :: rest) => some (.array [], rest)
              | some rest => items? budget (depth + 1) [] rest
          else if first == '\x7b' then
            if depthLimit ≤ depth + 1 then
              none
            else
              match skipBlanks rest with
              | '\x7d' :: rest => some (.table .inlined [], rest)
              | rest => inlineMembers? budget (depth + 1) [] rest
          else if first == 't' then
            if ['t', 'r', 'u', 'e'].isPrefixOf input then
              some (.boolean true, input.drop 4)
            else
              none
          else if first == 'f' then
            if ['f', 'a', 'l', 's', 'e'].isPrefixOf input then
              some (.boolean false, input.drop 5)
            else
              none
          else
            numeral? input

/-- The next item of an array and all that follow; `done` holds the items so far, last first. -/
def items? : Nat → Nat → List Value → List Char → Option (Value × List Char)
  | 0, _, _, _ => none
  | budget + 1, depth, done, input =>
      match value? budget depth input with
      | none => none
      | some (item, rest) =>
          match skipLines? (rest.length + 1) rest with
          | some (']' :: rest) => some (.array (item :: done).reverse, rest)
          | some (',' :: rest) =>
              match skipLines? (rest.length + 1) rest with
              | some (']' :: rest) => some (.array (item :: done).reverse, rest)
              | some rest => items? budget depth (item :: done) rest
              | none => none
          | _ => none

/-- The next member of an inline table and all that follow. -/
def inlineMembers? : Nat → Nat → Members → List Char → Option (Value × List Char)
  | 0, _, _, _ => none
  | budget + 1, depth, known, input =>
      match key? input with
      | some (path, name, '=' :: rest) =>
          match value? budget depth (skipBlanks rest) with
          | none => none
          | some (value, rest) =>
              match known.define path name value with
              | none => none
              | some known =>
                  match skipBlanks rest with
                  | '\x7d' :: rest => some (.table .inlined known, rest)
                  | ',' :: rest => inlineMembers? budget depth known rest
                  | _ => none
      | _ => none

end

/-- What is left after the end of a line, with an optional comment before it. -/
def endLine? (input : List Char) : Option (List Char) :=
  match skipComment (skipBlanks input) with
  | [] => some []
  | '\n' :: rest => some rest
  | _ => none

/-- A document as far as it has been read. -/
structure Draft where
  root : Members
  /-- The name of the header whose table takes the pairs that follow. -/
  current : List String

namespace Draft

/-- A document without lines. -/
def empty : Draft :=
  ⟨[], []⟩

/-- Take a table header, from behind its first bracket on. -/
def takeHeader? (draft : Draft) (input : List Char) : Option (Draft × List Char) :=
  match input with
  | '[' :: rest =>
      match key? rest with
      | some (path, name, ']' :: ']' :: rest) => do
          let root ← draft.root.alterAt (Members.openElement name) path
          let rest ← endLine? rest
          return (⟨root, path ++ [name]⟩, rest)
      | _ => none
  | _ =>
      match key? input with
      | some (path, name, ']' :: rest) => do
          let root ← draft.root.alterAt (Members.openTable name) path
          let rest ← endLine? rest
          return (⟨root, path ++ [name]⟩, rest)
      | _ => none

/-- Take a key with its value. -/
def takePair? (draft : Draft) (input : List Char) : Option (Draft × List Char) :=
  match key? input with
  | some (path, name, '=' :: rest) => do
      let (value, rest) ← value? (2 * rest.length + 2) 0 (skipBlanks rest)
      let root ← draft.root.alterAt (fun members => members.define path name value) draft.current
      let rest ← endLine? rest
      return ({ draft with root := root }, rest)
  | _ => none

/-- Take lines to the end of the input. -/
def takeLines? : Nat → Draft → List Char → Option Draft
  | 0, _, _ => none
  | budget + 1, draft, input =>
      match skipBlanks input with
      | [] => some draft
      | '\n' :: rest => takeLines? budget draft rest
      | '#' :: rest =>
          match endLine? ('#' :: rest) with
          | some rest => takeLines? budget draft rest
          | none => none
      | '[' :: rest =>
          match draft.takeHeader? rest with
          | some (draft, rest) => takeLines? budget draft rest
          | none => none
      | rest =>
          match draft.takePair? rest with
          | some (draft, rest) => takeLines? budget draft rest
          | none => none

end Draft

/-- Turn every line end into a line feed; a carriage return on its own is no line end. -/
def unifyLineEnds? : List Char → Option (List Char)
  | [] => some []
  | '\r' :: '\n' :: rest => (unifyLineEnds? rest).map ('\n' :: ·)
  | character :: rest =>
      if character == '\r' then none else (unifyLineEnds? rest).map (character :: ·)

/-- Drop a byte order mark at the front. -/
def dropByteOrderMark : List Char → List Char
  | '\uFEFF' :: rest => rest
  | input => input

/-- The root table of a document. -/
def read? (text : String) : Option Members := do
  let input ← unifyLineEnds? (dropByteOrderMark text.toList)
  let draft ← Draft.takeLines? (input.length + 1) .empty input
  return draft.root

end VersionedText.Toml
