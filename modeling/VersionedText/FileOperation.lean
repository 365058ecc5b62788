import VersionedText.Project

namespace VersionedText

/-!
# File operations

The messages by which a host reports what happens to its files, and what each of
them does to a project.
-/

/-- Something that happened to a file. -/
inductive FileOperation where
  | opened (file : Uri) (text : String) (mark : ByteOrderMark)
  | edited (file : Uri) (start stop : Nat) (text : String)
  | contentSet (file : Uri) (text : String)
  | closed (file : Uri)
  deriving DecidableEq

namespace FileOperation

/-- The file that an operation is about. -/
def file : FileOperation → Uri
  | .opened file .. => file
  | .edited file .. => file
  | .contentSet file _ => file
  | .closed file => file

end FileOperation

namespace Project

/-- Carry out a file operation; a close has no version to answer. -/
def dispatch
    (project : Project) :
    FileOperation → Project × Except Refusal (Option Nat)
  | .opened file text mark =>
      let (changed, version) := project.openFile file text.toList mark
      (changed, .ok (some version))
  | .edited file start stop text =>
      let (changed, outcome) := project.edit file start stop text.toList
      (changed, outcome.map some)
  | .contentSet file text =>
      let (changed, outcome) := project.setContent file text.toList
      (changed, outcome.map some)
  | .closed file =>
      let (changed, outcome) := project.close file
      (changed, outcome.map fun _ => none)

end Project

end VersionedText
