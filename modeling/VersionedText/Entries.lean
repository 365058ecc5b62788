namespace VersionedText.Entries

/-!
# Entries by name

Objects, tables and directories hold their entries as a list of pairs in which
the first pair with a name counts.
-/

/-- Give a name its value, in the place of an earlier value or at the end. -/
def set [BEq Name] (name : Name) (value : α) : List (Name × α) → List (Name × α)
  | [] => [(name, value)]
  | (other, known) :: rest =>
      if other == name then
        (name, value) :: rest
      else
        (other, known) :: set name value rest

end VersionedText.Entries
