import VersionedText.FileTree

namespace VersionedText

/-!
# What paths lead to

On a path without dots every name leads on to what the directory so far holds
under it, and an empty name, as between two slashes, leads nowhere new.  A path
of names alone therefore says all there is to say about where it leads.  A last
name that is no proper name leads back to some directory on the path.
-/

/-- A name that an entry of a directory can have. -/
def IsProperName (name : String) : Prop :=
  name ≠ "" ∧ name ≠ "." ∧ name ≠ ".."

instance (name : String) : Decidable (IsProperName name) :=
  inferInstanceAs (Decidable (_ ∧ _ ∧ _))

namespace Path

/-- The names on a path, the empty ones left out. -/
def names (path : Path) : Path :=
  path.filter fun name => name != ""

/-- No name on the path is made of dots. -/
def Dotless (path : Path) : Prop :=
  ∀ name ∈ path, name ≠ "." ∧ name ≠ ".."

instance (path : Path) : Decidable path.Dotless :=
  inferInstanceAs (Decidable (∀ name ∈ path, name ≠ "." ∧ name ≠ ".."))

@[simp]
theorem names_nil : names [] = [] :=
  rfl

@[simp]
theorem names_cons_empty (rest : Path) : names ("" :: rest) = names rest := by
  simp [names]

theorem names_cons
    {name : String}
    (proper : IsProperName name)
    (rest : Path) :
    names (name :: rest) = name :: names rest := by
  simp [names, proper.1]

@[simp]
theorem names_append (first second : Path) : names (first ++ second) = names first ++ names second :=
  List.filter_append ..

theorem names_singleton
    {name : String}
    (proper : IsProperName name) :
    names [name] = [name] :=
  names_cons proper []

theorem Dotless.of_cons
    {name : String}
    {rest : Path}
    (dotless : Dotless (name :: rest)) :
    Dotless rest :=
  fun later member => dotless later (List.mem_cons_of_mem name member)

theorem Dotless.of_prefix
    {part path : Path}
    (dotless : path.Dotless)
    (leading : part <+: path) :
    part.Dotless :=
  fun name member => dotless name (leading.subset member)

theorem Dotless.append_name
    {path : Path}
    {name : String}
    (dotless : path.Dotless)
    (proper : IsProperName name) :
    Dotless (path ++ [name]) := by
  intro other member
  rcases List.mem_append.mp member with before | last
  · exact dotless other before
  · obtain rfl := List.mem_singleton.mp last
    exact proper.2

theorem names_eq_self
    {path : Path}
    (proper : ∀ name ∈ path, IsProperName name) :
    path.names = path :=
  List.filter_eq_self.mpr fun name member => bne_iff_ne.mpr (proper name member).1

theorem Dotless.of_proper
    {path : Path}
    (proper : ∀ name ∈ path, IsProperName name) :
    path.Dotless :=
  fun name member => (proper name member).2

/-- The names on a path without dots are proper. -/
theorem Dotless.proper_of_mem_names
    {path : Path}
    (dotless : path.Dotless) :
    ∀ name ∈ path.names, IsProperName name := by
  intro name member
  obtain ⟨onPath, notEmpty⟩ := List.mem_filter.mp member
  exact ⟨bne_iff_ne.mp notEmpty, dotless name onPath⟩

/-- A path without dots begins with an empty name or with a proper one. -/
theorem Dotless.first_cases
    {name : String}
    {rest : Path}
    (dotless : Dotless (name :: rest)) :
    name = "" ∨ IsProperName name := by
  by_cases empty : name = ""
  · exact .inl empty
  · exact .inr ⟨empty, dotless name List.mem_cons_self⟩

/-- A leading part of the names on a path is what a leading part of the path names. -/
theorem exists_prefix_of_prefix_names
    {path directory : Path}
    (leading : directory <+: path.names) :
    ∃ written, written <+: path ∧ names written = directory := by
  obtain ⟨rest, shape⟩ := leading
  obtain ⟨written, later, rfl, same, -⟩ := List.filter_eq_append_iff.mp shape.symm
  exact ⟨written, List.prefix_append written later, same⟩

end Path

namespace FileTree

/-- A path of proper names leads from a tree to something in it. -/
inductive LeadsTo : FileTree → Path → FileTree → Prop where
  | here (tree : FileTree) :
      LeadsTo tree [] tree
  | onward
      {tree inner reached : FileTree}
      {name : String}
      {rest : Path} :
      IsProperName name →
      tree.entries.lookup name = some inner →
      LeadsTo inner rest reached →
      LeadsTo tree (name :: rest) reached

namespace LeadsTo

variable {tree reached other : FileTree} {name : String} {path rest : Path}

@[simp]
theorem nil_iff : tree.LeadsTo [] reached ↔ tree = reached := by
  constructor
  · intro leads
    cases leads
    rfl
  · rintro rfl
    exact .here tree

theorem cons_iff :
    tree.LeadsTo (name :: rest) reached ↔
      IsProperName name ∧
        ∃ inner, tree.entries.lookup name = some inner ∧ inner.LeadsTo rest reached := by
  constructor
  · intro leads
    cases leads with
    | onward proper found later => exact ⟨proper, _, found, later⟩
  · rintro ⟨proper, inner, found, later⟩
    exact .onward proper found later

theorem append_iff :
    tree.LeadsTo (path ++ rest) reached ↔
      ∃ place, tree.LeadsTo path place ∧ place.LeadsTo rest reached := by
  induction path generalizing tree with
  | nil =>
      simp
  | cons name path inductionHypothesis =>
      simp only [List.cons_append, cons_iff, inductionHypothesis]
      constructor
      · rintro ⟨proper, inner, found, place, before, after⟩
        exact ⟨place, ⟨proper, inner, found, before⟩, after⟩
      · rintro ⟨place, ⟨proper, inner, found, before⟩, after⟩
        exact ⟨proper, inner, found, place, before, after⟩

theorem proper
    (leads : tree.LeadsTo path reached) :
    ∀ name ∈ path, IsProperName name := by
  induction leads with
  | here tree =>
      intro name member
      cases member
  | onward proper _ _ inductionHypothesis =>
      intro other member
      rcases List.mem_cons.mp member with rfl | later
      · exact proper
      · exact inductionHypothesis other later

/-- A path leads to one thing only. -/
theorem unique
    (leads : tree.LeadsTo path reached)
    (leadsElsewhere : tree.LeadsTo path other) :
    reached = other := by
  induction leads with
  | here tree =>
      exact nil_iff.mp leadsElsewhere
  | onward _ found _ inductionHypothesis =>
      obtain ⟨-, inner, foundAgain, later⟩ := cons_iff.mp leadsElsewhere
      obtain rfl := Option.some.inj (found.symm.trans foundAgain)
      exact inductionHypothesis later

/-- Nothing lies in a file. -/
theorem not_of_file
    (contents : ByteArray) :
    ¬LeadsTo (.file contents) (name :: rest) reached := by
  rw [cons_iff]
  rintro ⟨-, inner, ⟨⟩, -⟩

end LeadsTo

/-- Where a single name leads, with the directories above that place. -/
def step? (above : List FileTree) (here : FileTree) (name : String) :
    Option (List FileTree × FileTree) :=
  if name = "." ∨ name = "" then
    if here.isDirectory then some (above, here) else none
  else if name = ".." then
    if here.isDirectory then
      match above with
      | [] => some ([], here)
      | parent :: before => some (before, parent)
    else
      none
  else
    (here.entries.lookup name).map fun inner => (here :: above, inner)

/-- A path is followed name by name. -/
theorem findFrom?_cons_eq_bind
    (above : List FileTree)
    (here : FileTree)
    (name : String)
    (rest : Path) :
    findFrom? above here (name :: rest) =
      (step? above here name).bind fun place => findFrom? place.1 place.2 rest := by
  by_cases stays : name = "." ∨ name = ""
  · cases directory : here.isDirectory <;>
      simp [findFrom?, step?, stays, directory]
  · obtain ⟨notDot, notEmpty⟩ := not_or.mp stays
    by_cases dots : name = ".."
    · cases directory : here.isDirectory <;> cases above <;>
        simp [findFrom?, step?, dots, directory]
    · rw [findFrom?_cons notDot dots notEmpty]
      cases found : here.entries.lookup name <;> simp [step?, stays, dots, found]

theorem step?_of_proper
    {name : String}
    (proper : IsProperName name)
    (above : List FileTree)
    (here : FileTree) :
    step? above here name =
      (here.entries.lookup name).map fun inner => (here :: above, inner) := by
  obtain ⟨notEmpty, notDot, notDots⟩ := proper
  simp [step?, notEmpty, notDot, notDots]

/-- An empty name stays in a directory. -/
theorem step?_empty
    (above : List FileTree)
    (here : FileTree) :
    step? above here "" = if here.isDirectory then some (above, here) else none := by
  simp [step?]

/-- What is no proper name stays in a directory or leads to the one above, if there is one. -/
theorem step?_of_not_proper
    {above before : List FileTree}
    {here place : FileTree}
    {name : String}
    (improper : ¬IsProperName name)
    (found : step? above here name = some (before, place)) :
    place = here ∨ above = place :: before := by
  by_cases stays : name = "." ∨ name = ""
  · cases directory : here.isDirectory <;> simp_all [step?]
  · obtain ⟨notDot, notEmpty⟩ := not_or.mp stays
    have dots : name = ".." :=
      Decidable.byContradiction fun other => improper ⟨notEmpty, notDot, other⟩
    cases directory : here.isDirectory <;> cases above <;> simp_all [step?]

theorem findFrom?_cons_of_proper
    {name : String}
    (proper : IsProperName name)
    (above : List FileTree)
    (here : FileTree)
    (rest : Path) :
    findFrom? above here (name :: rest) =
      (here.entries.lookup name).bind fun inner => findFrom? (here :: above) inner rest :=
  findFrom?_cons proper.2.1 proper.2.2 proper.1 above here rest

/-- What a further proper name leads to is held by what the path leads to. -/
theorem findFrom?_append_name
    {name : String}
    (proper : IsProperName name)
    (above : List FileTree)
    (here : FileTree)
    (path : Path) :
    findFrom? above here (path ++ [name]) =
      (findFrom? above here path).bind fun place => place.entries.lookup name := by
  induction path generalizing above here with
  | nil =>
      rw [List.nil_append, findFrom?_cons_of_proper proper]
      simp [findFrom?]
  | cons first rest inductionHypothesis =>
      rw [List.cons_append, findFrom?_cons_eq_bind, findFrom?_cons_eq_bind, Option.bind_assoc]
      simp only [inductionHypothesis]

/-- Names without dots lead to the same as the path of the proper ones among them. -/
theorem findFrom?_append_name_iff
    {path : Path}
    {name : String}
    {here reached : FileTree}
    (dotless : path.Dotless)
    (proper : IsProperName name)
    (above : List FileTree) :
    findFrom? above here (path ++ [name]) = some reached ↔
      here.LeadsTo (path.names ++ [name]) reached := by
  induction path generalizing above here with
  | nil =>
      rw [List.nil_append, findFrom?_cons_of_proper proper]
      simp [LeadsTo.cons_iff, proper, findFrom?]
  | cons first rest inductionHypothesis =>
      rcases dotless.first_cases with rfl | firstProper
      · rw [List.cons_append, findFrom?_cons_eq_bind, step?_empty, Path.names_cons_empty]
        cases here with
        | directory entries =>
            exact inductionHypothesis dotless.of_cons above
        | file contents =>
            obtain ⟨next, more, shape⟩ :=
              List.exists_cons_of_ne_nil
                (List.append_ne_nil_of_right_ne_nil (Path.names rest) (List.cons_ne_nil name []))
            rw [shape]
            simp [isDirectory, LeadsTo.not_of_file]
      · rw [List.cons_append, findFrom?_cons_of_proper firstProper, Path.names_cons firstProper,
          List.cons_append, LeadsTo.cons_iff]
        simp [firstProper, Option.bind_eq_some_iff, inductionHypothesis dotless.of_cons]

/-- A last name that is not proper leads back to where part of the path led. -/
theorem exists_prefix_of_findFrom?_append
    {path : Path}
    {name : String}
    {above : List FileTree}
    {here place : FileTree}
    (dotless : path.Dotless)
    (improper : ¬IsProperName name)
    (found : findFrom? above here (path ++ [name]) = some place) :
    (∃ earlier, earlier <+: path ∧ findFrom? above here earlier = some place) ∨
      ∃ before, above = place :: before := by
  induction path generalizing above here with
  | nil =>
      rw [List.nil_append, findFrom?_cons_eq_bind, Option.bind_eq_some_iff] at found
      obtain ⟨⟨before, other⟩, stepped, same⟩ := found
      obtain rfl : other = place := by simpa [findFrom?] using same
      rcases step?_of_not_proper improper stepped with rfl | shape
      · exact .inl ⟨[], List.nil_prefix, rfl⟩
      · exact .inr ⟨before, shape⟩
  | cons first rest inductionHypothesis =>
      rw [List.cons_append, findFrom?_cons_eq_bind, Option.bind_eq_some_iff] at found
      obtain ⟨⟨before, inner⟩, stepped, later⟩ := found
      rcases inductionHypothesis dotless.of_cons later with ⟨earlier, leading, led⟩ | ⟨outer, shape⟩
      · refine .inl ⟨first :: earlier, (List.prefix_cons_inj first).mpr leading, ?_⟩
        rw [findFrom?_cons_eq_bind, stepped]
        exact led
      · rcases dotless.first_cases with rfl | firstProper
        · cases directory : here.isDirectory <;> simp_all [step?_empty]
        · rw [step?_of_proper firstProper] at stepped
          obtain ⟨other, -, same⟩ := Option.map_eq_some_iff.mp stepped
          simp only [Prod.mk.injEq] at same
          obtain ⟨rfl, rfl⟩ := same
          obtain ⟨rfl, rfl⟩ := List.cons.inj shape
          exact .inl ⟨[], List.nil_prefix, rfl⟩

end FileTree

end VersionedText
