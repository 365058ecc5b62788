import VersionedText.Uri.Percent
import VersionedText.Uri.Scheme

namespace VersionedText.Uri

/-!
# Paths

A path is the list of its segments.  Segments that are dots are resolved, the
others are encoded.  Two dots take back the segment before them, unless that one
begins with a drive letter.  In the path of a file a drive letter that comes first
is written with a colon, and then the host does not count.
-/

/-- A segment in lower case in which encoded dots are dots. -/
def plainDots : List Char → List Char
  | [] => []
  | '%' :: '2' :: 'e' :: rest => '.' :: plainDots rest
  | '%' :: '2' :: 'E' :: rest => '.' :: plainDots rest
  | character :: rest => character :: plainDots rest

/-- The segment that stands for its own directory. -/
def isSingleDot (segment : List Char) : Bool :=
  plainDots segment == ['.']

/-- The segment that stands for the directory above. -/
def isDoubleDot (segment : List Char) : Bool :=
  plainDots segment == ['.', '.']

/-- Whether a character may stand behind the letter of a drive. -/
def isDriveMark (character : Char) : Bool :=
  character == ':' || character == '|'

/-- Whether a segment is a drive letter. -/
def isDrive : List Char → Bool
  | [letter, mark] => letter.isAlpha && isDriveMark mark
  | _ => false

/-- Whether a segment begins with a drive letter, on its own or before a backslash. -/
def beginsWithDrive : List Char → Bool
  | [letter, mark] => letter.isAlpha && isDriveMark mark
  | letter :: mark :: '\\' :: _ => letter.isAlpha && isDriveMark mark
  | _ => false

/-- Take back the last segment, where segments are given last first. -/
def takeBack : List (List Char) → List (List Char)
  | [] => []
  | last :: before => if beginsWithDrive last then last :: before else before

/-- A path as far as it has been read. -/
structure PathDraft where
  /-- The segments, last first. -/
  segments : List (List Char)
  /-- Whether the path begins with a drive letter that takes the place of a host. -/
  namesDrive : Bool
  deriving DecidableEq

namespace PathDraft

/-- No segment yet. -/
def start : PathDraft :=
  ⟨[], false⟩

/-- Take a segment that is no dot. -/
def push (kind : SchemeKind) (draft : PathDraft) (segment : List Char) : PathDraft :=
  match segment with
  | letter :: _ =>
      if kind = .file ∧ draft.segments.isEmpty ∧ isDrive segment then
        ⟨[[letter, ':']], true⟩
      else
        { draft with
          segments := Percent.encode Percent.needsEncodingInPath segment :: draft.segments }
  | [] => { draft with segments := [] :: draft.segments }

/-- Take the segments of a path; a dot at the end leaves an empty segment behind. -/
def takeAll (kind : SchemeKind) (draft : PathDraft) : List (List Char) → PathDraft
  | [] => draft
  | segment :: rest =>
      let isLast := rest.isEmpty
      let next :=
        if isDoubleDot segment then
          let shortened := { draft with segments := takeBack draft.segments }
          if isLast then shortened.push kind [] else shortened
        else if isSingleDot segment then
          if isLast then draft.push kind [] else draft
        else
          draft.push kind segment
      takeAll kind next rest

/-- The written form of a path; no path of a file begins with empty segments. -/
def text (kind : SchemeKind) (draft : PathDraft) : List Char :=
  let whole := draft.segments.reverse.flatMap ('/' :: ·)
  if kind = .file then '/' :: whole.dropWhile (· == '/') else whole

end PathDraft

/-- The path that a text spells, whose leading slash has been taken off. -/
def readPath (scheme : Scheme) (spelling : List Char) : PathDraft :=
  PathDraft.start.takeAll scheme.kind (pieces scheme.isSlash spelling)

/-- The written form of the path that a text spells. -/
def pathText (scheme : Scheme) (spelling : List Char) : List Char :=
  (readPath scheme spelling).text scheme.kind

end VersionedText.Uri
