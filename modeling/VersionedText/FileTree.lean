import VersionedText.Entries

namespace VersionedText

/-!
# File trees

A file tree is what lies under a directory: files with their bytes, and
directories by name.  A path is the list of names from the root of the tree on;
the empty path is the root itself.  Two dots lead back to the directory above, or
stay at the root; a single dot and an empty name stay where they are; none of them
leads anywhere from a file.
-/

/-- A path below the root of a tree. -/
abbrev Path := List String

/-- A file or a directory with everything below it. -/
inductive FileTree where
  | file (contents : ByteArray)
  | directory (entries : List (String × FileTree))

namespace FileTree

/-- A directory without entries. -/
def emptyDirectory : FileTree :=
  .directory []

/-- The names in a directory, with what they stand for. -/
def entries : FileTree → List (String × FileTree)
  | .file _ => []
  | .directory entries => entries

/-- Whether a tree is a directory. -/
def isDirectory : FileTree → Bool
  | .file _ => false
  | .directory _ => true

/-- What a path leads to from a place in a tree, given the directories above that place. -/
def findFrom? : List FileTree → FileTree → Path → Option FileTree
  | _, here, [] => some here
  | above, here, name :: rest =>
      if name == "." || name == "" then
        if here.isDirectory then findFrom? above here rest else none
      else if name == ".." then
        if here.isDirectory then
          match above with
          | [] => findFrom? [] here rest
          | parent :: before => findFrom? before parent rest
        else
          none
      else
        match here.entries.lookup name with
        | some below => findFrom? (here :: above) below rest
        | none => none

/-- What a path leads to. -/
def find? (tree : FileTree) (path : Path) : Option FileTree :=
  findFrom? [] tree path

/-- The contents of the file that a path leads to. -/
def contents? (tree : FileTree) (path : Path) : Option ByteArray :=
  match tree.find? path with
  | some (.file contents) => some contents
  | _ => none

/-- Whether a path leads to a file. -/
def isFile (tree : FileTree) (path : Path) : Bool :=
  (tree.contents? path).isSome

/-- The directories directly inside the one that a path leads to. -/
def subdirectories (tree : FileTree) (path : Path) : List String :=
  match tree.find? path with
  | some below =>
      below.entries.filterMap fun entry =>
        if entry.2.isDirectory then some entry.1 else none
  | none => []

/-- Put a tree at a path, making the directories on the way. -/
def place (tree : FileTree) (path : Path) (placed : FileTree) : FileTree :=
  match path with
  | [] => placed
  | name :: rest =>
      let below := (tree.entries.lookup name).getD emptyDirectory
      .directory (Entries.set name (below.place rest placed) tree.entries)

/-- Names other than dots and the empty one are looked up one in the other. -/
theorem findFrom?_cons
    {name : String}
    (notDot : name ≠ ".")
    (notDots : name ≠ "..")
    (notEmpty : name ≠ "")
    (above : List FileTree)
    (here : FileTree)
    (rest : Path) :
    findFrom? above here (name :: rest) =
      (here.entries.lookup name).bind fun below => findFrom? (here :: above) below rest := by
  cases found : here.entries.lookup name <;>
    simp [findFrom?, notDot, notDots, notEmpty, found]

end FileTree

end VersionedText
