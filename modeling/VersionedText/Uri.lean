import VersionedText.Uri.Authority
import VersionedText.Uri.Path

namespace VersionedText

/-!
# URIs

Files are named by URIs, and two spellings of one URI must name one file.  A URI
is therefore kept as the text of its normal form: the scheme in lower case, the
host in plain form, dot segments resolved, and what may not stand for itself
percent-encoded.  A text without a scheme is no URI.

`Uri` carries the proof that its text is the normal form of some spelling.
-/

namespace Uri

/-- Drop what surrounds a URI and the line breaks and tabs inside it. -/
def trim (text : List Char) : List Char :=
  let isEdge := fun (character : Char) => character.toNat ≤ 0x20
  let inner := ((text.dropWhile isEdge).reverse.dropWhile isEdge).reverse
  inner.filter fun character => !(['\t', '\n', '\r'].contains character)

/-- Query and fragment with their marks, encoded. -/
def suffixText (scheme : Scheme) (text : List Char) : List Char :=
  let (query, fragment) := cutBefore (· == '#') text
  Percent.encode (Percent.needsEncodingInQuery scheme.isSpecial) query ++
    Percent.encode Percent.needsEncodingInFragment fragment

/-- What two slashes lead to, and the text behind both, if a text begins with two. -/
def behindTwoSlashes? (scheme : Scheme) : List Char → Option (List Char)
  | first :: second :: rest =>
      if scheme.isSlash first && scheme.isSlash second then some rest else none
  | _ => none

/-- The host of a file, unless it is none or the machine itself. -/
def fileHost? (spelling : List Char) : Except ParseError (Option Host) :=
  if spelling.isEmpty then
    .ok none
  else
    (Host.parse spelling).map fun host =>
      if host = .domain Host.selfName then none else some host

/--
The part of a file's URI between its scheme and its query.  Without a host the
path keeps its leading slash, so that a drive letter in it is not the first
segment.
-/
def fileText (scheme : Scheme) (body : List Char) : Except ParseError (List Char) :=
  match behindTwoSlashes? scheme body with
  | none =>
      let path :=
        match body with
        | first :: rest => if scheme.isSlash first then rest else body
        | [] => []
      .ok (['/', '/'] ++ pathText scheme path)
  | some rest => do
      let (hostSpelling, path) := cutBefore scheme.isSlash rest
      if isDrive hostSpelling then
        return ['/', '/'] ++ pathText scheme rest
      match ← fileHost? hostSpelling with
      | none => return ['/', '/'] ++ pathText scheme path
      | some host =>
          let draft := readPath scheme (path.drop 1)
          let host := if draft.namesDrive then [] else host.text
          return ['/', '/'] ++ host ++ draft.text scheme.kind

/-- The part of a web URL between its scheme and its query; all leading slashes count as two. -/
def webText (scheme : Scheme) (body : List Char) (isLast : Bool) :
    Except ParseError (List Char) := do
  let (authority, path) := cutBefore scheme.isSlash (body.dropWhile scheme.isSlash)
  let (authority, _) ← readAuthority scheme authority (path.isEmpty && isLast)
  return ['/', '/'] ++ authority ++ pathText scheme (path.drop 1)

/-- A path behind an authority, which may be left out. -/
def pathBehind (scheme : Scheme) : List Char → List Char
  | [] => []
  | first :: rest =>
      if scheme.isSlash first then pathText scheme rest else pathText scheme (first :: rest)

/--
The part of any other URI between its scheme and its query.  A path that begins
with two slashes is told from an authority by a dot segment in front.
-/
def otherText (scheme : Scheme) (body : List Char) (isLast : Bool) :
    Except ParseError (List Char) :=
  match behindTwoSlashes? scheme body with
  | some rest => do
      let (authority, path) := cutBefore scheme.isSlash rest
      let (authority, left) ← readAuthority scheme authority (path.isEmpty && isLast)
      return ['/', '/'] ++ authority ++ pathBehind scheme (left ++ path)
  | none =>
      match body with
      | '/' :: rest =>
          let path := pathText scheme rest
          if ['/', '/'].isPrefixOf path then .ok (['/', '.'] ++ path) else .ok path
      | _ => .ok (Percent.encode Percent.isControlOrWide body)

/-- The normal form of a spelling. -/
def normalForm (spelling : String) : Except ParseError String :=
  match Scheme.cut? (trim spelling.toList) with
  | none => .error .noScheme
  | some (scheme, rest) => do
      let (body, suffix) :=
        cutBefore (fun character => character == '?' || character == '#') rest
      let hierarchy ←
        match scheme.kind with
        | .file => fileText scheme body
        | .web => webText scheme body suffix.isEmpty
        | .other => otherText scheme body suffix.isEmpty
      return String.ofList (scheme.name ++ ':' :: hierarchy ++ suffixText scheme suffix)

end Uri

/-- A URI, as a text that is the normal form of some spelling. -/
structure Uri where
  text : String
  hasSpelling : ∃ spelling, Uri.normalForm spelling = .ok text
  deriving DecidableEq

namespace Uri

/-- Read a URI from any of its spellings. -/
def parse (spelling : String) : Except ParseError Uri :=
  match outcome : normalForm spelling with
  | .ok text => .ok ⟨text, spelling, outcome⟩
  | .error error => .error error

/-- A URI is determined by its text. -/
@[ext]
theorem ext
    {first second : Uri}
    (sameText : first.text = second.text) :
    first = second := by
  cases first
  cases second
  simp_all

/-- A URI that its own text spells. -/
def IsStable (uri : Uri) : Prop :=
  normalForm uri.text = .ok uri.text

/-- Spellings with one normal form spell one URI. -/
theorem parse_eq_ok_iff
    {spelling : String}
    {uri : Uri} :
    parse spelling = .ok uri ↔ normalForm spelling = .ok uri.text := by
  unfold parse
  split
  · rename_i text outcome
    simp [outcome, Uri.ext_iff]
  · rename_i error outcome
    simp [outcome]

/-- The text of a stable URI reads back as that URI. -/
theorem parse_text
    {uri : Uri}
    (stable : uri.IsStable) :
    parse uri.text = .ok uri :=
  parse_eq_ok_iff.mpr stable

/-- Byte order of the texts, which all lie within ASCII. -/
def precedes (first second : Uri) : Bool :=
  first.text < second.text

end Uri

end VersionedText
