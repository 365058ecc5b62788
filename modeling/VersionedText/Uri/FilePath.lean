import VersionedText.FileTree
import VersionedText.Uri

namespace VersionedText.Uri

/-!
# Paths of file URIs

A URI with a hierarchical path and no host, or with the machine itself as its
host, names a path, whatever its scheme.  The names on it are decoded; empty ones
and single dots name no directory of their own.
-/

/-- The text of some bytes, in which a byte outside ASCII stands for no character if not all do. -/
def nameOf (bytes : List UInt8) : String :=
  (Percent.textOfBytes? bytes).getD
    (String.ofList (bytes.map fun byte =>
      if byte < 0x80 then Char.ofNat byte.toNat else '\uFFFD'))

/-- The byte between the names on a path. -/
def separatorByte : UInt8 :=
  '/'.toNat.toUInt8

/-- The names between separators. -/
def namesBetween (bytes : List UInt8) : List String :=
  ((bytes.splitBy fun first second => first != separatorByte && second != separatorByte).filter
    (· != [separatorByte])).map nameOf

/-- The names on an absolute path. -/
def namesOf (path : List Char) : Path :=
  (namesBetween (Percent.decode path)).filter fun name => name != "" && name != "."

/-- Whether the host behind a user is none or the machine itself. -/
def isLocal (authority : List Char) : Bool :=
  let host := (cutHost false (cutUser authority).2).1
  host.isEmpty || host == Host.selfName

/-- The path that a URI names, if it names one. -/
def filePath? (uri : Uri) : Option Path := do
  let (_, rest) ← Scheme.cut? uri.text.toList
  let (body, _) := cutBefore (fun character => character == '?' || character == '#') rest
  match body with
  | '/' :: '/' :: rest =>
      let (authority, path) := cutBefore (· == '/') rest
      if isLocal authority && !path.isEmpty then some (namesOf path) else none
  | '/' :: path => some (namesOf path)
  | _ => none

end VersionedText.Uri
