import VersionedText.Proofs.FilePaths
import VersionedText.Settings.Discovery

namespace VersionedText.Settings

/-!
# The nearest settings file

Settings are those of the deepest directory on the way to the start that holds a
settings file, the start itself included.  If there is none, they are those of a
directory directly inside the start, and if there is none either, the defaults.
`IsHome` says so of a file tree and a path of names.

Only regular files with the name of the settings file, in these directories and
nowhere else, have a say; what one of them holds decides even where it cannot be
read.
-/

/-- A directory holds a settings file. -/
def IsHeld (tree : FileTree) (directory : Path) : Prop :=
  ∃ contents, tree.LeadsTo (directory ++ [fileName]) (.file contents)

/-- The longest of the leading parts of a path that have a property. -/
structure IsDeepest (Has : Path → Prop) (path part : Path) : Prop where
  leading : part <+: path
  has : Has part
  deepest : ∀ other, other <+: path → Has other → other <+: part

/-- The settings that hold for a start directory, and the directory they are found in. -/
inductive IsHome (tree : FileTree) (start : Path) : Settings → Path → Prop where
  /-- A settings file on the way to the start, and none deeper on it. -/
  | above
      {directory : Path} :
      IsDeepest (IsHeld tree) start directory →
      IsHome tree start (load tree (directory ++ [fileName])) directory
  /-- A settings file directly inside the start, and none on the way. -/
  | inside
      {child : String} :
      (∀ directory, directory <+: start → ¬IsHeld tree directory) →
      IsHeld tree (start ++ [child]) →
      IsHome tree start (load tree (start ++ [child] ++ [fileName])) (start ++ [child])
  /-- No settings file on the way or directly inside. -/
  | nowhere :
      (∀ directory, directory <+: start → ¬IsHeld tree directory) →
      (∀ child, ¬IsHeld tree (start ++ [child])) →
      IsHome tree start default start

/-- At most one directory directly inside the start holds a settings file. -/
def OneChild (tree : FileTree) (start : Path) : Prop :=
  ∀ first second,
    IsHeld tree (start ++ [first]) →
    IsHeld tree (start ++ [second]) →
    first = second

/-- Two trees have the same settings files on the way to a start and directly inside it. -/
def AlikeNear (start : Path) (tree other : FileTree) : Prop :=
  ∀ directory,
    (directory <+: start ∨ ∃ child, directory = start ++ [child]) →
    ∀ contents,
      tree.LeadsTo (directory ++ [fileName]) (.file contents) ↔
        other.LeadsTo (directory ++ [fileName]) (.file contents)

theorem isProperName_fileName : IsProperName fileName := by
  decide

/-- The longest leading part with a property is the only one. -/
theorem IsDeepest.unique
    {Has : Path → Prop}
    {path first second : Path}
    (isFirst : IsDeepest Has path first)
    (isSecond : IsDeepest Has path second) :
    first = second := by
  have firstLeads := isSecond.deepest first isFirst.leading isFirst.has
  have secondLeads := isFirst.deepest second isSecond.leading isSecond.has
  exact firstLeads.eq_of_length_le secondLeads.length_le

/-- The file behind a path is the one behind its names. -/
theorem contents?_eq_some_iff
    {directory : Path}
    (dotless : directory.Dotless)
    (tree : FileTree)
    (contents : ByteArray) :
    tree.contents? (directory ++ [fileName]) = some contents ↔
      tree.LeadsTo (directory.names ++ [fileName]) (.file contents) := by
  rw [← FileTree.findFrom?_append_name_iff dotless isProperName_fileName []]
  rw [FileTree.contents?, FileTree.find?]
  split <;> simp_all

theorem isIn_iff
    {directory : Path}
    (dotless : directory.Dotless)
    (tree : FileTree) :
    isIn tree directory = true ↔ IsHeld tree directory.names := by
  rw [isIn, FileTree.isFile, Option.isSome_iff_exists]
  exact exists_congr (contents?_eq_some_iff dotless tree)

theorem isDeepest_nil_iff
    {Has : Path → Prop}
    {part : Path} :
    IsDeepest Has [] part ↔ Has [] ∧ part = [] := by
  constructor
  · rintro ⟨leading, has, -⟩
    obtain rfl := List.prefix_nil.mp leading
    exact ⟨has, rfl⟩
  · rintro ⟨has, rfl⟩
    exact ⟨List.prefix_rfl, has, fun _ leading _ => leading⟩

/-- The whole path is the deepest part of itself; without it the rest of the path decides. -/
theorem isDeepest_append_iff
    {Has : Path → Prop}
    {path part : Path}
    {name : String} :
    IsDeepest Has (path ++ [name]) part ↔
      Has (path ++ [name]) ∧ part = path ++ [name] ∨
        ¬Has (path ++ [name]) ∧ IsDeepest Has path part := by
  constructor
  · rintro ⟨leading, has, deepest⟩
    by_cases whole : Has (path ++ [name])
    · have longer := deepest (path ++ [name]) List.prefix_rfl whole
      exact .inl ⟨whole, leading.eq_of_length_le longer.length_le⟩
    · have before : part <+: path := by
        refine (List.prefix_concat_iff.mp leading).resolve_left ?_
        rintro rfl
        exact whole has
      refine .inr ⟨whole, before, has, ?_⟩
      intro other otherLeading
      exact deepest other (otherLeading.trans (List.prefix_append path [name]))
  · rintro (⟨whole, rfl⟩ | ⟨notWhole, leading, has, deepest⟩)
    · exact ⟨List.prefix_rfl, whole, fun _ leading _ => leading⟩
    · refine ⟨leading.trans (List.prefix_append path [name]), has, ?_⟩
      intro other otherLeading otherHas
      refine deepest other ((List.prefix_concat_iff.mp otherLeading).resolve_left ?_) otherHas
      rintro rfl
      exact notWhole otherHas

/-- The search upwards finds the deepest directory with a settings file. -/
theorem nearestAbove?_eq_some_iff
    {tree : FileTree}
    {backward : List String}
    {directory : Path} :
    nearestAbove? tree backward = some directory ↔
      IsDeepest (isIn tree · = true) backward.reverse directory := by
  induction backward with
  | nil =>
      rw [List.reverse_nil, isDeepest_nil_iff, nearestAbove?]
      cases isIn tree [] with
      | true => simp
      | false => simp
  | cons name above inductionHypothesis =>
      rw [List.reverse_cons, isDeepest_append_iff, ← inductionHypothesis, nearestAbove?,
        List.reverse_cons]
      cases isIn tree (above.reverse ++ [name]) with
      | true => simpa using eq_comm
      | false => simp

/-- The search upwards fails when no directory on the way has a settings file. -/
theorem nearestAbove?_eq_none_iff
    {tree : FileTree}
    {backward : List String} :
    nearestAbove? tree backward = none ↔
      ∀ directory, directory <+: backward.reverse → isIn tree directory = false := by
  induction backward with
  | nil =>
      simp [nearestAbove?]
  | cons name above inductionHypothesis =>
      simp only [nearestAbove?, List.reverse_cons, List.prefix_concat_iff, or_imp, forall_and,
        forall_eq, ← inductionHypothesis]
      cases isIn tree (above.reverse ++ [name]) <;> simp

/-- A directory that is not told by a proper name is on the way to the start. -/
theorem exists_prefix_of_isIn
    {tree : FileTree}
    {start : Path}
    {name : String}
    (dotless : start.Dotless)
    (improper : ¬IsProperName name)
    (held : isIn tree (start ++ [name]) = true) :
    ∃ directory, directory <+: start ∧ isIn tree directory = true := by
  have find?_file (directory : Path) :
      tree.find? (directory ++ [fileName]) =
        (tree.find? directory).bind fun place => place.entries.lookup fileName :=
    FileTree.findFrom?_append_name isProperName_fileName [] tree directory
  rw [isIn, FileTree.isFile, FileTree.contents?, find?_file] at held
  cases found : tree.find? (start ++ [name]) with
  | none =>
      simp [found] at held
  | some place =>
      have back := FileTree.exists_prefix_of_findFrom?_append dotless improper found
      obtain ⟨directory, leading, led⟩ := back.resolve_right (by rintro ⟨before, ⟨⟩⟩)
      refine ⟨directory, leading, ?_⟩
      rw [isIn, FileTree.isFile, FileTree.contents?, find?_file, FileTree.find?, led]
      rwa [found] at held

/-- A child with a settings file is among the directories in the start. -/
theorem mem_subdirectories
    {tree : FileTree}
    {start : Path}
    {child : String}
    (dotless : start.Dotless)
    (held : IsHeld tree (start.names ++ [child])) :
    IsProperName child ∧ child ∈ tree.subdirectories start := by
  obtain ⟨contents, leads⟩ := held
  obtain ⟨inner, toInner, inside⟩ := FileTree.LeadsTo.append_iff.mp leads
  obtain ⟨_, _, toChild⟩ := FileTree.LeadsTo.append_iff.mp toInner
  have proper := (FileTree.LeadsTo.cons_iff.mp toChild).1
  have isDirectory : inner.isDirectory = true := by
    cases inner with
    | file other => exact absurd inside (FileTree.LeadsTo.not_of_file other)
    | directory entries => rfl
  rw [← FileTree.findFrom?_append_name_iff dotless proper [],
    FileTree.findFrom?_append_name proper, Option.bind_eq_some_iff] at toInner
  obtain ⟨place, found, entry⟩ := toInner
  obtain ⟨before, behind, shape, -⟩ := List.lookup_eq_some_iff.mp entry
  refine ⟨proper, ?_⟩
  rw [FileTree.subdirectories, FileTree.find?, found]
  exact List.mem_filterMap.mpr ⟨(child, inner), by simp [shape], by simp [isDirectory]⟩

/-- What is read from a settings file is what its contents say, or else the defaults. -/
theorem load_of_leadsTo
    {tree : FileTree}
    {directory : Path}
    {contents : ByteArray}
    (leads : tree.LeadsTo (directory ++ [fileName]) (.file contents)) :
    load tree (directory ++ [fileName]) = (ofBytes? contents).getD default := by
  have proper (name : String) (member : name ∈ directory) : IsProperName name :=
    leads.proper name (List.mem_append_left [fileName] member)
  have found : tree.contents? (directory ++ [fileName]) = some contents := by
    rw [contents?_eq_some_iff (Path.Dotless.of_proper proper), Path.names_eq_self proper]
    exact leads
  rw [load, found, Option.bind_some]

/-- Empty names on the way to a settings file make no difference. -/
theorem loadFrom_names
    {directory : Path}
    (dotless : directory.Dotless)
    (tree : FileTree) :
    load tree (directory.names ++ [fileName]) = loadFrom tree directory := by
  have proper := dotless.proper_of_mem_names
  have same :
      tree.contents? (directory.names ++ [fileName]) = tree.contents? (directory ++ [fileName]) := by
    refine Option.ext fun contents => ?_
    rw [contents?_eq_some_iff (.of_proper proper), contents?_eq_some_iff dotless,
      Path.names_eq_self proper]
  rw [loadFrom, load, load, same]

/-- The deepest directory of a written path is the deepest one of its names. -/
theorem IsDeepest.names
    {tree : FileTree}
    {start directory : Path}
    (dotless : start.Dotless)
    (deepest : IsDeepest (isIn tree · = true) start directory) :
    IsDeepest (IsHeld tree) start.names directory.names := by
  refine ⟨deepest.leading.filter _, ?_, ?_⟩
  · exact (isIn_iff (dotless.of_prefix deepest.leading) tree).mp deepest.has
  · intro other leading held
    obtain ⟨written, writtenLeading, rfl⟩ := Path.exists_prefix_of_prefix_names leading
    have has := (isIn_iff (dotless.of_prefix writtenLeading) tree).mpr held
    exact (deepest.deepest written writtenLeading has).filter _

/-- A directory that is found inside the start is told by a proper name. -/
theorem exists_child_of_childOf?
    {tree : FileTree}
    {start directory : Path}
    (dotless : start.Dotless)
    (noneAbove : ∀ above, above <+: start → isIn tree above = false)
    (found : childOf? tree start = some directory) :
    ∃ child,
      IsProperName child ∧ directory = start ++ [child] ∧ IsHeld tree (start.names ++ [child]) := by
  have has := List.find?_some found
  obtain ⟨child, -, rfl⟩ := List.mem_map.mp (List.mem_of_find?_eq_some found)
  have proper : IsProperName child := by
    refine Decidable.byContradiction fun improper => ?_
    obtain ⟨above, leading, hasToo⟩ := exists_prefix_of_isIn dotless improper has
    simp [noneAbove above leading] at hasToo
  refine ⟨child, proper, rfl, ?_⟩
  have held := (isIn_iff (dotless.append_name proper) tree).mp has
  rwa [Path.names_append, Path.names_singleton proper] at held

theorem not_isHeld_of_childOf?_eq_none
    {tree : FileTree}
    {start : Path}
    (dotless : start.Dotless)
    (nothing : childOf? tree start = none)
    (child : String) :
    ¬IsHeld tree (start.names ++ [child]) := by
  intro held
  obtain ⟨proper, member⟩ := mem_subdirectories dotless held
  apply List.find?_eq_none.mp nothing (start ++ [child]) (List.mem_map.mpr ⟨child, member, rfl⟩)
  rw [isIn_iff (dotless.append_name proper), Path.names_append, Path.names_singleton proper]
  exact held

/-- What is discovered is the home of the start. -/
theorem isHome_discover
    {start : Path}
    (dotless : start.Dotless)
    (tree : FileTree) :
    IsHome tree start.names (discover tree start).1 (discover tree start).2.names := by
  cases upwards : nearestAbove? tree start.reverse with
  | some directory =>
      have answer : discover tree start = (loadFrom tree directory, directory) := by
        simp [discover, home?, upwards]
      have deepest := nearestAbove?_eq_some_iff.mp upwards
      rw [List.reverse_reverse] at deepest
      rw [answer, ← loadFrom_names (dotless.of_prefix deepest.leading)]
      exact .above (deepest.names dotless)
  | none =>
      have noneWritten := nearestAbove?_eq_none_iff.mp upwards
      rw [List.reverse_reverse] at noneWritten
      have noneAbove (directory : Path) (leading : directory <+: start.names) :
          ¬IsHeld tree directory := by
        intro held
        obtain ⟨written, writtenLeading, rfl⟩ := Path.exists_prefix_of_prefix_names leading
        have has := (isIn_iff (dotless.of_prefix writtenLeading) tree).mpr held
        simp [noneWritten written writtenLeading] at has
      cases inwards : childOf? tree start with
      | some directory =>
          have answer : discover tree start = (loadFrom tree directory, directory) := by
            simp [discover, home?, upwards, inwards]
          obtain ⟨child, proper, rfl, held⟩ := exists_child_of_childOf? dotless noneWritten inwards
          rw [answer, ← loadFrom_names (dotless.append_name proper), Path.names_append,
            Path.names_singleton proper]
          exact .inside noneAbove held
      | none =>
          have answer : discover tree start = (default, start) := by
            simp [discover, home?, upwards, inwards]
          rw [answer]
          exact .nowhere noneAbove (not_isHeld_of_childOf?_eq_none dotless inwards)

namespace IsHome

variable {tree other : FileTree} {start directory directory' : Path} {settings settings' : Settings}

/-- There is one home only. -/
theorem unique
    (oneChild : OneChild tree start)
    (home : IsHome tree start settings directory)
    (home' : IsHome tree start settings' directory') :
    settings = settings' ∧ directory = directory' := by
  cases home with
  | above deepest =>
      cases home' with
      | above deepest' =>
          obtain rfl := deepest.unique deepest'
          exact ⟨rfl, rfl⟩
      | inside noneAbove => exact absurd deepest.has (noneAbove _ deepest.leading)
      | nowhere noneAbove => exact absurd deepest.has (noneAbove _ deepest.leading)
  | inside noneAbove held =>
      cases home' with
      | above deepest => exact absurd deepest.has (noneAbove _ deepest.leading)
      | inside _ held' =>
          obtain rfl := oneChild _ _ held held'
          exact ⟨rfl, rfl⟩
      | nowhere _ noneInside => exact absurd held (noneInside _)
  | nowhere noneAbove noneInside =>
      cases home' with
      | above deepest => exact absurd deepest.has (noneAbove _ deepest.leading)
      | inside _ held => exact absurd held (noneInside _)
      | nowhere => exact ⟨rfl, rfl⟩

end IsHome

namespace AlikeNear

variable {tree other : FileTree} {start directory : Path} {settings : Settings}

theorem isHeld_iff
    (alike : AlikeNear start tree other)
    (near : directory <+: start ∨ ∃ child, directory = start ++ [child]) :
    IsHeld tree directory ↔ IsHeld other directory :=
  exists_congr (alike directory near)

theorem load_eq
    (alike : AlikeNear start tree other)
    (near : directory <+: start ∨ ∃ child, directory = start ++ [child])
    (held : IsHeld tree directory) :
    load other (directory ++ [fileName]) = load tree (directory ++ [fileName]) := by
  obtain ⟨contents, leads⟩ := held
  rw [load_of_leadsTo leads, load_of_leadsTo ((alike directory near contents).mp leads)]

/-- A home in one of two trees that are alike near the start is one in the other. -/
theorem isHome
    (alike : AlikeNear start tree other)
    (home : IsHome tree start settings directory) :
    IsHome other start settings directory := by
  have noneAbove
      (noneAbove : ∀ directory, directory <+: start → ¬IsHeld tree directory)
      (directory : Path)
      (leading : directory <+: start) :
      ¬IsHeld other directory := by
    rw [← alike.isHeld_iff (.inl leading)]
    exact noneAbove directory leading
  cases home with
  | above deepest =>
      rw [← alike.load_eq (.inl deepest.leading) deepest.has]
      refine .above ⟨deepest.leading, ?_, ?_⟩
      · exact (alike.isHeld_iff (.inl deepest.leading)).mp deepest.has
      · intro directory leading held
        exact deepest.deepest directory leading ((alike.isHeld_iff (.inl leading)).mpr held)
  | @inside child noneAboveTree held =>
      have near : ∃ other, start ++ [child] = start ++ [other] := ⟨child, rfl⟩
      rw [← alike.load_eq (.inr near) held]
      exact .inside (noneAbove noneAboveTree) ((alike.isHeld_iff (.inr near)).mp held)
  | nowhere noneAboveTree noneInside =>
      refine .nowhere (noneAbove noneAboveTree) fun child held => ?_
      exact noneInside child ((alike.isHeld_iff (.inr ⟨child, rfl⟩)).mpr held)

theorem oneChild
    (alike : AlikeNear start tree other)
    (oneChild : OneChild tree start) :
    OneChild other start := by
  intro first second firstHeld secondHeld
  apply oneChild
  · exact (alike.isHeld_iff (.inr ⟨first, rfl⟩)).mpr firstHeld
  · exact (alike.isHeld_iff (.inr ⟨second, rfl⟩)).mpr secondHeld

end AlikeNear

/-- What is to be expected of the discovery of settings from a start. -/
structure DiscoversNearest (tree : FileTree) (start : Path) : Prop where
  /-- The answer is the one home of the start. -/
  isHome_iff :
    ∀ settings directory,
      IsHome tree start.names settings directory ↔
        settings = (discover tree start).1 ∧ directory = (discover tree start).2.names
  load_eq :
    ∀ directory contents,
      tree.LeadsTo (directory ++ [fileName]) (.file contents) →
      load tree (directory ++ [fileName]) = (ofBytes? contents).getD default
  /-- A file that is no text, no TOML or no settings counts, as one that sets nothing. -/
  load_of_malformed :
    ∀ directory contents,
      tree.LeadsTo (directory ++ [fileName]) (.file contents) →
      (∀ text root,
        String.fromUTF8? contents = some text →
        Toml.read? text = some root →
        ofTable? root = none) →
      load tree (directory ++ [fileName]) = default
  not_isHeld_of_directory :
    ∀ directory entries,
      tree.LeadsTo (directory ++ [fileName]) (.directory entries) →
      ¬IsHeld tree directory
  /-- Nothing but settings files on the way to the start and directly inside it is looked at. -/
  eq_of_alikeNear :
    ∀ other,
      AlikeNear start.names tree other →
      (discover other start).1 = (discover tree start).1 ∧
        (discover other start).2.names = (discover tree start).2.names

/-- Discovery finds the nearest settings file, in every tree and from every start. -/
theorem discover_nearest
    {tree : FileTree}
    {start : Path}
    (dotless : start.Dotless)
    (oneChild : OneChild tree start.names) :
    DiscoversNearest tree start where
  isHome_iff settings directory := by
    constructor
    · intro home
      exact home.unique oneChild (isHome_discover dotless tree)
    · rintro ⟨rfl, rfl⟩
      exact isHome_discover dotless tree
  load_eq _ _ leads := load_of_leadsTo leads
  load_of_malformed directory contents leads malformed := by
    have nothing : ofBytes? contents = none := by
      cases text : String.fromUTF8? contents with
      | none => simp [ofBytes?, text]
      | some text' =>
          cases root : Toml.read? text' with
          | none => simp [ofBytes?, text, root]
          | some root' => simp [ofBytes?, text, root, malformed text' root' text root]
    rw [load_of_leadsTo leads, nothing, Option.getD_none]
  not_isHeld_of_directory directory entries leads := by
    rintro ⟨contents, leadsToFile⟩
    cases leads.unique leadsToFile
  eq_of_alikeNear other alike := by
    have home := alike.isHome (isHome_discover dotless tree)
    have unique := home.unique (alike.oneChild oneChild) (isHome_discover dotless other)
    exact ⟨unique.1.symm, unique.2.symm⟩

/--
A file that is no text wins over one inside the start and one further up, and a
directory with its name does not count.
-/
theorem discover_nearest_unreadable :
    let tree : FileTree :=
      .directory
        [("settings.toml", .file "[documents]".toUTF8),
          ("work", .directory
            [("settings.toml", .file ⟨#[0xFF]⟩),
              ("app", .directory
                [("settings.toml", .emptyDirectory),
                  ("src", .directory [("settings.toml", .file "[documents]".toUTF8)])])])]
    let start : Path := ["work", "", "app"]
    start.Dotless ∧ OneChild tree start.names ∧ IsHome tree ["work", "app"] default ["work"] := by
  intro tree start
  have dotless : start.Dotless := by
    simp only [start]
    decide
  have oneChild : OneChild tree start.names := by
    have onlySource (child : String) (held : IsHeld tree (start.names ++ [child])) :
        child = "src" := by
      obtain ⟨proper, member⟩ := mem_subdirectories dotless held
      have directories : tree.subdirectories start = ["settings.toml", "src"] := rfl
      rw [directories, List.mem_cons, List.mem_singleton] at member
      refine member.resolve_left ?_
      rintro rfl
      rw [← Path.names_singleton proper, ← Path.names_append,
        ← isIn_iff (dotless.append_name proper)] at held
      revert held
      simp only [tree, start]
      decide
    intro first second firstHeld secondHeld
    exact (onlySource first firstHeld).trans (onlySource second secondHeld).symm
  have answer : discover tree start = (default, ["work", ""]) := by
    simp only [tree, start]
    decide
  refine ⟨dotless, oneChild, ((discover_nearest dotless oneChild).isHome_iff _ _).mpr ?_⟩
  rw [answer]
  exact ⟨rfl, rfl⟩

end VersionedText.Settings
