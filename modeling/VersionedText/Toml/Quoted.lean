import VersionedText.Hexadecimal
import VersionedText.Toml

namespace VersionedText.Toml

/-!
# TOML strings and keys

Strings are basic or literal, within one line or over several.  A key has one or
more parts, each bare or a string.  A reader takes what it needs and returns the
rest; line ends have been unified to line feeds beforehand.
-/

/-- A blank within a line. -/
def isBlank (character : Char) : Bool :=
  character == ' ' || character == '\t'

/-- A character that comments and literal strings may hold. -/
def isTextCharacter (character : Char) : Bool :=
  character == '\t' ||
    (0x20 ≤ character.toNat && character.toNat ≤ 0x7E) || 0x80 ≤ character.toNat

/-- Drop blanks within a line. -/
def skipBlanks (input : List Char) : List Char :=
  input.dropWhile isBlank

/-- A quote mark of basic strings. -/
def basicMark : Char :=
  '\x22'

/-- A quote mark of literal strings. -/
def literalMark : Char :=
  '\x27'

/-- The character that a one-letter escape stands for. -/
def shortEscape? (letter : Char) : Option Char :=
  [('b', '\x08'), ('t', '\t'), ('n', '\n'), ('f', '\x0c'), ('r', '\r'),
    ('\x22', '\x22'), ('\x5c', '\x5c')].lookup letter

/-- The character of a number, if there is one. -/
def character? (value : Nat) : Option Char :=
  if value.isValidChar then some (Char.ofNat value) else none

/-- Where the reader of a string stands. -/
inductive StringState where
  /-- In the text, behind a run of quote marks. -/
  | text (marks : Nat)
  /-- Behind a backslash. -/
  | escaped
  /-- Inside an escape by number, with so many digits to come. -/
  | numbered (left value : Nat)
  /-- Behind a backslash and blanks, with the end of the line to come. -/
  | lineEscaped
  /-- Behind an escaped line end, where blanks and line ends are passed over. -/
  | skipping
  deriving DecidableEq

/-- A basic string within one line, up to its closing mark; `done` holds the text, last first. -/
def basicString? : StringState → List Char → List Char → Option (List Char × List Char)
  | _, _, [] => none
  | .escaped, done, character :: rest =>
      if character == 'u' then
        basicString? (.numbered 4 0) done rest
      else if character == 'U' then
        basicString? (.numbered 8 0) done rest
      else
        match shortEscape? character with
        | some meant => basicString? (.text 0) (meant :: done) rest
        | none => none
  | .numbered left value, done, character :: rest =>
      match Hexadecimal.value? character with
      | none => none
      | some digit =>
          let number := 16 * value + digit
          if 1 < left then
            basicString? (.numbered (left - 1) number) done rest
          else
            match character? number with
            | some meant => basicString? (.text 0) (meant :: done) rest
            | none => none
  | _, done, character :: rest =>
      if character == basicMark then
        some (done.reverse, rest)
      else if character == '\x5c' then
        basicString? .escaped done rest
      else if isTextCharacter character then
        basicString? (.text 0) (character :: done) rest
      else
        none

/-- The text in front of a closing run of at least three marks. -/
def closeRun (mark : Char) (marks : Nat) (done : List Char) : List Char :=
  (List.replicate (marks - 3) mark ++ done).reverse

/--
A string over several lines, up to its closing marks.  Of a run of marks the
last three close the string, and at most two may stand before them.
-/
def longString? (mark : Char) (escapes : Bool) :
    StringState → List Char → List Char → Option (List Char × List Char)
  | .text marks, done, [] =>
      if 3 ≤ marks then some (closeRun mark marks done, []) else none
  | _, _, [] => none
  | .escaped, done, character :: rest =>
      if character == '\n' then
        longString? mark escapes .skipping done rest
      else if isBlank character then
        longString? mark escapes .lineEscaped done rest
      else if character == 'u' then
        longString? mark escapes (.numbered 4 0) done rest
      else if character == 'U' then
        longString? mark escapes (.numbered 8 0) done rest
      else
        match shortEscape? character with
        | some meant => longString? mark escapes (.text 0) (meant :: done) rest
        | none => none
  | .numbered left value, done, character :: rest =>
      match Hexadecimal.value? character with
      | none => none
      | some digit =>
          let number := 16 * value + digit
          if 1 < left then
            longString? mark escapes (.numbered (left - 1) number) done rest
          else
            match character? number with
            | some meant => longString? mark escapes (.text 0) (meant :: done) rest
            | none => none
  | .lineEscaped, done, character :: rest =>
      if character == '\n' then
        longString? mark escapes .skipping done rest
      else if isBlank character then
        longString? mark escapes .lineEscaped done rest
      else
        none
  | state, done, character :: rest =>
      let marks :=
        match state with
        | .text marks => marks
        | _ => 0
      if state == .skipping && (isBlank character || character == '\n') then
        longString? mark escapes .skipping done rest
      else if character == mark then
        if marks == 5 then
          none
        else
          longString? mark escapes (.text (marks + 1)) done rest
      else if 3 ≤ marks then
        some (closeRun mark marks done, character :: rest)
      else
        let done := List.replicate marks mark ++ done
        if escapes && character == '\x5c' then
          longString? mark escapes .escaped done rest
        else if character == '\n' || isTextCharacter character then
          longString? mark escapes (.text 0) (character :: done) rest
        else
          none

/-- A literal string within one line, behind its opening mark. -/
def literalString? (input : List Char) : Option (List Char × List Char) :=
  match input.span fun character => isTextCharacter character && character != literalMark with
  | (text, mark :: rest) => if mark == literalMark then some (text, rest) else none
  | _ => none

/-- Drop a line end right behind the opening marks. -/
def dropFirstLineEnd : List Char → List Char
  | '\n' :: rest => rest
  | input => input

/-- A string of any kind, from its opening mark on. -/
def string? (input : List Char) : Option (List Char × List Char) :=
  match input with
  | first :: second :: third :: rest =>
      if first == basicMark && second == basicMark && third == basicMark then
        longString? basicMark true (.text 0) [] (dropFirstLineEnd rest)
      else if first == literalMark && second == literalMark && third == literalMark then
        longString? literalMark false (.text 0) [] (dropFirstLineEnd rest)
      else if first == basicMark then
        basicString? (.text 0) [] (second :: third :: rest)
      else
        literalString? (second :: third :: rest)
  | first :: rest =>
      if first == basicMark then basicString? (.text 0) [] rest else literalString? rest
  | [] => none

/-- A character of a key without quotes. -/
def isKeyCharacter (character : Char) : Bool :=
  character.isAlphanum || character == '-' || character == '_'

/-- One part of a key. -/
def simpleKey? (input : List Char) : Option (String × List Char) :=
  match input with
  | [] => none
  | first :: rest =>
      if first == basicMark then
        (basicString? (.text 0) [] rest).map fun found => (String.ofList found.1, found.2)
      else if first == literalMark then
        (literalString? rest).map fun found => (String.ofList found.1, found.2)
      else
        match input.span isKeyCharacter with
        | ([], _) => none
        | (name, rest) => some (String.ofList name, rest)

/-- How deep keys and values may nest: to every depth below this one. -/
def depthLimit : Nat :=
  80

/-- A key of one or more parts, with the blanks around them. -/
def keyParts? : Nat → List Char → Option (List String × List Char)
  | 0, _ => none
  | budget + 1, input =>
      match simpleKey? (skipBlanks input) with
      | none => none
      | some (name, rest) =>
          match skipBlanks rest with
          | '.' :: rest =>
              (keyParts? budget rest).map fun found => (name :: found.1, found.2)
          | rest => some ([name], rest)

/-- A key, as the parts before the last and the last. -/
def key? (input : List Char) : Option (List String × String × List Char) :=
  match keyParts? (depthLimit - 1) input with
  | none => none
  | some (parts, rest) => parts.getLast?.map fun name => (parts.dropLast, name, rest)

end VersionedText.Toml
