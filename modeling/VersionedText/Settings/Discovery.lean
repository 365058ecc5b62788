import VersionedText.Settings

namespace VersionedText.Settings

/-!
# Finding the settings of a workspace

The settings file is looked for in the start directory and then in every
directory above it, and the nearest one decides, however little it holds.  Only
when there is none do the directories directly inside the start directory get
their turn.  Nothing deeper is ever looked at.
-/

/-- The name of the settings file. -/
def fileName : String :=
  "settings.toml"

/-- Whether a directory holds a settings file. -/
def isIn (tree : FileTree) (directory : Path) : Bool :=
  tree.isFile (directory ++ [fileName])

/-- The settings that a directory holds. -/
def loadFrom (tree : FileTree) (directory : Path) : Settings :=
  load tree (directory ++ [fileName])

/-- The deepest directory with a settings file on a path, given from its last name to its first. -/
def nearestAbove? (tree : FileTree) : List String → Option Path
  | [] => if isIn tree [] then some [] else none
  | name :: above =>
      let directory := (name :: above).reverse
      if isIn tree directory then some directory else nearestAbove? tree above

/-- A directory directly inside another that holds a settings file. -/
def childOf? (tree : FileTree) (directory : Path) : Option Path :=
  ((tree.subdirectories directory).map fun name => directory ++ [name]).find? (isIn tree)

/-- The directory whose settings hold for a workspace, if there is one. -/
def home? (tree : FileTree) (start : Path) : Option Path :=
  nearestAbove? tree start.reverse <|> childOf? tree start

/-- The settings of a workspace, and the directory that they were found in. -/
def discover (tree : FileTree) (start : Path) : Settings × Path :=
  match home? tree start with
  | some directory => (loadFrom tree directory, directory)
  | none => (default, start)

end VersionedText.Settings
