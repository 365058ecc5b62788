import VersionedText.FileTree
import VersionedText.Project
import VersionedText.Toml.Reader

namespace VersionedText

/-!
# Settings

Settings are written in TOML, as a table `documents` with the key
`max_edit_history`.  A file counts as a whole: if it is missing, is not text, is
not TOML or holds a setting of the wrong kind, everything takes its default.
Unknown tables and keys are passed over.
-/

/-- The settings of a workspace. -/
structure Settings where
  /-- The settings for documents, if the section is there. -/
  documents : Option DocumentSettings
  deriving Repr, DecidableEq

namespace Settings

/-- The settings of an empty file. -/
def default : Settings :=
  ⟨none⟩

/-- The settings for documents, with defaults for a missing section. -/
def documentSettings (settings : Settings) : DocumentSettings :=
  settings.documents.getD .default

/-- A history limit: an integer without a sign. -/
def historyLimit? : Toml.Value → Option Nat
  | .integer value => if 0 ≤ value then some value.toNat else none
  | _ => none

/--
The section for documents: a table, or an array of its settings in order.  A time
is read as a table of its own whose keys are passed over.
-/
def section? : Toml.Value → Option DocumentSettings
  | .table _ members =>
      match members.lookup "max_edit_history" with
      | none => some ⟨none⟩
      | some value => (historyLimit? value).map fun limit => ⟨some limit⟩
  | .array (value :: _) => (historyLimit? value).map fun limit => ⟨some limit⟩
  | .time => some ⟨none⟩
  | _ => none

/-- The settings in the root table of a file. -/
def ofTable? (root : Toml.Members) : Option Settings :=
  match root.lookup "documents" with
  | none => some default
  | some value => (section? value).map fun documents => ⟨some documents⟩

/-- The settings in the bytes of a file. -/
def ofBytes? (contents : ByteArray) : Option Settings := do
  let text ← String.fromUTF8? contents
  let root ← Toml.read? text
  ofTable? root

/-- The settings of the file at a path, or the defaults. -/
def load (tree : FileTree) (path : Path) : Settings :=
  ((tree.contents? path).bind ofBytes?).getD default

end Settings

end VersionedText
