import VersionedText.Proofs.Calls

namespace VersionedText

/-!
# Open files in order

The entries of a project stand in the order of their URIs, each URI once, and
putting an entry in place keeps them so.  Hence the list of open files is
strictly ascending and holds exactly the files that have a document.
-/

namespace Uri

theorem not_precedes_self (uri : Uri) : uri.precedes uri = false := by
  simp [precedes]

theorem precedes_trans
    {first second third : Uri}
    (before : first.precedes second = true)
    (after : second.precedes third = true) :
    first.precedes third = true := by
  simp only [precedes, decide_eq_true_eq] at before after ⊢
  exact String.lt_trans before after

/-- Of two different URIs one precedes the other. -/
theorem precedes_of_not_precedes
    {first second : Uri}
    (different : second ≠ first)
    (notBefore : ¬first.precedes second = true) :
    second.precedes first = true := by
  simp only [precedes, decide_eq_true_eq, String.not_lt] at notBefore ⊢
  rw [← String.not_le]
  intro notAfter
  exact different (Uri.ext (String.le_antisymm notBefore notAfter))

end Uri

namespace Project

/-- The entries stand in the order of their URIs. -/
def Sorted (files : List (Uri × FileEntry)) : Prop :=
  files.Pairwise fun first second => first.1.precedes second.1 = true

/-- An entry found after putting one in place is that one or was there before. -/
theorem mem_insertEntry
    {uri : Uri}
    {entry : FileEntry}
    {files : List (Uri × FileEntry)}
    {file : Uri × FileEntry}
    (member : file ∈ insertEntry uri entry files) :
    file = (uri, entry) ∨ file ∈ files := by
  induction files with
  | nil =>
      exact .inl (List.mem_singleton.mp member)
  | cons head rest inductionHypothesis =>
      obtain ⟨other, known⟩ := head
      rw [insertEntry] at member
      split at member
      · rcases List.mem_cons.mp member with isNew | inRest
        · exact .inl isNew
        · exact .inr (List.mem_cons_of_mem _ inRest)
      · split at member
        · rcases List.mem_cons.mp member with isNew | before
          · exact .inl isNew
          · exact .inr before
        · rcases List.mem_cons.mp member with isHead | inRest
          · exact .inr (by simp [isHead])
          · rcases inductionHypothesis inRest with isNew | before
            · exact .inl isNew
            · exact .inr (List.mem_cons_of_mem _ before)

namespace Sorted

/-- Putting an entry in place keeps the order. -/
theorem insertEntry
    {files : List (Uri × FileEntry)}
    (sorted : Sorted files)
    (uri : Uri)
    (entry : FileEntry) :
    Sorted (Project.insertEntry uri entry files) := by
  induction files with
  | nil =>
      exact List.pairwise_singleton _ _
  | cons head rest inductionHypothesis =>
      obtain ⟨other, known⟩ := head
      obtain ⟨headFirst, restSorted⟩ := List.pairwise_cons.mp sorted
      rw [Project.insertEntry]
      split
      · rename_i same
        subst same
        exact List.pairwise_cons.mpr ⟨headFirst, restSorted⟩
      · rename_i different
        split
        · rename_i first
          refine List.pairwise_cons.mpr ⟨?_, sorted⟩
          intro file member
          rcases List.mem_cons.mp member with rfl | inRest
          · exact first
          · exact Uri.precedes_trans first (headFirst file inRest)
        · rename_i notFirst
          refine List.pairwise_cons.mpr ⟨?_, inductionHypothesis restSorted⟩
          intro file member
          rcases mem_insertEntry member with rfl | inRest
          · exact Uri.precedes_of_not_precedes different notFirst
          · exact headFirst file inRest

/-- In order, looking a URI up finds the entry that is listed for it. -/
theorem lookup_eq_some_iff
    {files : List (Uri × FileEntry)}
    (sorted : Sorted files)
    (uri : Uri)
    (entry : FileEntry) :
    files.lookup uri = some entry ↔ (uri, entry) ∈ files := by
  induction files with
  | nil =>
      simp
  | cons head rest inductionHypothesis =>
      obtain ⟨other, known⟩ := head
      obtain ⟨headFirst, restSorted⟩ := List.pairwise_cons.mp sorted
      by_cases same : uri = other
      · subst same
        have onlyHead : (uri, entry) ∉ rest := by
          intro inRest
          have itself := headFirst _ inRest
          rw [Uri.not_precedes_self] at itself
          cases itself
        simp [onlyHead, eq_comm]
      · have unequal : (uri == other) = false := by simpa using same
        simp [List.lookup_cons, unequal, same, inductionHypothesis restSorted]

end Sorted

/-- The open files are those that have a document. -/
theorem mem_openFiles_iff
    {project : Project}
    (sorted : Sorted project.files)
    (uri : Uri) :
    uri ∈ project.openFiles ↔ (project.document? uri).isSome = true := by
  simp only [openFiles, List.mem_filterMap, Option.map_eq_some_iff, document?, Project.entry]
  constructor
  · rintro ⟨⟨other, entry⟩, member, document, alive, rfl⟩
    rw [(sorted.lookup_eq_some_iff other entry).mpr member, Option.getD_some]
    exact Option.isSome_iff_exists.mpr ⟨document, alive⟩
  · intro alive
    cases found : project.files.lookup uri with
    | none =>
        rw [found] at alive
        cases alive
    | some entry =>
        rw [found, Option.getD_some] at alive
        obtain ⟨document, documentShape⟩ := Option.isSome_iff_exists.mp alive
        exact ⟨(uri, entry), (sorted.lookup_eq_some_iff uri entry).mp found,
          document, documentShape, rfl⟩

/-- The open files ascend strictly. -/
theorem openFiles_pairwise
    {project : Project}
    (sorted : Sorted project.files) :
    project.openFiles.Pairwise fun first second => first.precedes second = true := by
  apply List.Pairwise.filterMap _ _ sorted
  rintro ⟨first, firstEntry⟩ ⟨second, secondEntry⟩ before
  simp only [Option.map_eq_some_iff]
  rintro _ ⟨-, -, rfl⟩ _ ⟨-, -, rfl⟩
  exact before

end Project

end VersionedText
