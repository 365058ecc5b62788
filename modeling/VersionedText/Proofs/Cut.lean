import VersionedText.Refusal

namespace VersionedText.Text

/-!
# Cuts at boundaries

A text can be cut at an offset exactly when some leading part of it is that
long.  All slices and checks are restated in those terms: what they accept is
named by the parts that the cuts leave, and offsets are the sizes of those
parts.  From there on a statement about offsets is one about lists of
characters.
-/

@[simp]
theorem size_eq_zero_iff
    (text : Text) :
    text.size = 0 ↔ text = [] := by
  cases text with
  | nil =>
      simp
  | cons character rest =>
      have occupies := character.utf8Size_pos
      simp only [size_cons, reduceCtorEq, iff_false]
      omega

@[simp]
theorem before_append_size
    (head tail : Text) :
    before (head ++ tail) head.size = head := by
  induction head with
  | nil =>
      cases tail <;> simp [before]
  | cons character rest inductionHypothesis =>
      have occupies := character.utf8Size_pos
      have inside : character.utf8Size + size rest ≠ 0 := by omega
      rw [List.cons_append, before, size_cons, if_neg inside,
        Nat.add_sub_cancel_left, inductionHypothesis]

@[simp]
theorem after_append_size
    (head tail : Text) :
    after (head ++ tail) head.size = tail := by
  have whole := before_append_after (head ++ tail) head.size
  rw [before_append_size] at whole
  exact List.append_cancel_left whole

/-- An offset is a boundary when some leading part of the text is that long. -/
theorem isBoundary_iff_exists
    (text : Text)
    (offset : Nat) :
    text.isBoundary offset = true ↔
      ∃ head tail, text = head ++ tail ∧ head.size = offset := by
  rw [isBoundary_iff_size_before]
  constructor
  · intro reached
    exact ⟨text.before offset, text.after offset,
      (before_append_after text offset).symm, reached⟩
  · rintro ⟨head, tail, rfl, rfl⟩
    rw [before_append_size]

@[simp]
theorem isBoundary_append_size
    (head tail : Text) :
    (head ++ tail).isBoundary head.size = true :=
  (isBoundary_iff_exists _ _).mpr ⟨head, tail, rfl, rfl⟩

theorem isBoundary_inner
    (head middle tail : Text) :
    (head ++ middle ++ tail).isBoundary head.size = true ∧
      (head ++ middle ++ tail).isBoundary (head.size + middle.size) = true := by
  constructor
  · rw [List.append_assoc]
    exact isBoundary_append_size head (middle ++ tail)
  · rw [← size_append]
    exact isBoundary_append_size (head ++ middle) tail

/-- Of two leading parts of a text, the shorter is a leading part of the longer. -/
theorem exists_append_of_size_le
    {first second firstTail secondTail : Text}
    (same : first ++ firstTail = second ++ secondTail)
    (shorter : first.size ≤ second.size) :
    ∃ middle, second = first ++ middle ∧ firstTail = middle ++ secondTail := by
  rcases List.append_eq_append_iff.mp same with
      ⟨middle, secondShape, tailShape⟩ | ⟨middle, firstShape, tailShape⟩
  · exact ⟨middle, secondShape, tailShape⟩
  · subst firstShape
    have nothing : middle = [] := by
      rw [← size_eq_zero_iff]
      rw [size_append] at shorter
      omega
    subst nothing
    exact ⟨[], by simp, by simpa using tailShape.symm⟩

/-- What lies before a boundary. -/
theorem upTo?_eq_some_iff
    {text head : Text}
    {offset : Nat} :
    text.upTo? offset = some head ↔
      ∃ tail, text = head ++ tail ∧ head.size = offset := by
  simp only [upTo?, Option.ite_none_right_eq_some, Option.some.injEq,
    isBoundary_iff_size_before]
  constructor
  · rintro ⟨reached, rfl⟩
    exact ⟨text.after offset, (before_append_after text offset).symm, reached⟩
  · rintro ⟨tail, rfl, rfl⟩
    simp

/-- What lies from a boundary on. -/
theorem onward?_eq_some_iff
    {text tail : Text}
    {offset : Nat} :
    text.onward? offset = some tail ↔
      ∃ head, text = head ++ tail ∧ head.size = offset := by
  simp only [onward?, Option.ite_none_right_eq_some, Option.some.injEq,
    isBoundary_iff_size_before]
  constructor
  · rintro ⟨reached, rfl⟩
    exact ⟨text.before offset, (before_append_after text offset).symm, reached⟩
  · rintro ⟨head, rfl, rfl⟩
    simp

/-- Two boundaries in order cut a text into three parts. -/
theorem exists_parts_of_isBoundary
    {text : Text}
    {start stop : Nat}
    (inOrder : start ≤ stop)
    (startBoundary : text.isBoundary start = true)
    (stopBoundary : text.isBoundary stop = true) :
    ∃ head middle tail,
      text = head ++ middle ++ tail ∧
        head.size = start ∧ head.size + middle.size = stop := by
  obtain ⟨head, rest, cutAtStart, rfl⟩ := (isBoundary_iff_exists _ _).mp startBoundary
  obtain ⟨longer, tail, cutAtStop, rfl⟩ := (isBoundary_iff_exists _ _).mp stopBoundary
  obtain ⟨middle, rfl, -⟩ :=
    exists_append_of_size_le (cutAtStart.symm.trans cutAtStop) inOrder
  exact ⟨head, middle, tail, cutAtStop, rfl, (size_append head middle).symm⟩

/-- The part between two leading parts of a text. -/
theorem between_append_size
    (head middle tail : Text) :
    between (head ++ middle ++ tail) head.size (head.size + middle.size) = middle := by
  rw [between, List.append_assoc, after_append_size, Nat.add_sub_cancel_left,
    before_append_size]

/-- What lies between two boundaries in order. -/
theorem slice?_eq_some_iff
    {text middle : Text}
    {start stop : Nat} :
    text.slice? start stop = some middle ↔
      ∃ head tail,
        text = head ++ middle ++ tail ∧
          head.size = start ∧ head.size + middle.size = stop := by
  simp only [slice?, Option.ite_none_right_eq_some, Option.some.injEq]
  constructor
  · rintro ⟨⟨inOrder, startBoundary, stopBoundary⟩, rfl⟩
    obtain ⟨head, middle, tail, rfl, rfl, rfl⟩ :=
      exists_parts_of_isBoundary inOrder startBoundary stopBoundary
    exact ⟨head, tail, by rw [between_append_size], rfl, by rw [between_append_size]⟩
  · rintro ⟨head, tail, rfl, rfl, rfl⟩
    exact ⟨⟨Nat.le_add_right _ _, isBoundary_inner head middle tail⟩,
      between_append_size head middle tail⟩

/-- A slice that can be cut is what lies between its ends. -/
theorem between_of_slice?
    {text middle : Text}
    {start stop : Nat}
    (cut : text.slice? start stop = some middle) :
    text.between start stop = middle := by
  simp only [slice?, Option.ite_none_right_eq_some, Option.some.injEq] at cut
  exact cut.2

theorem isBoundary_of_slice?
    {text middle : Text}
    {start stop : Nat}
    (cut : text.slice? start stop = some middle) :
    text.isBoundary start = true ∧ text.isBoundary stop = true := by
  obtain ⟨head, tail, rfl, rfl, rfl⟩ := slice?_eq_some_iff.mp cut
  exact isBoundary_inner head middle tail

/-- A splice puts the new characters between what two cuts leave. -/
theorem splice_append_size
    (head removed inserted tail : Text) :
    splice (head ++ removed ++ tail) head.size (head.size + removed.size) inserted =
      head ++ inserted ++ tail := by
  have front : before (head ++ removed ++ tail) head.size = head := by
    rw [List.append_assoc, before_append_size]
  have back : after (head ++ removed ++ tail) (head.size + removed.size) = tail := by
    rw [← size_append, after_append_size]
  rw [splice, front, back]

/-- A span is accepted exactly when it can be cut out of the text. -/
theorem checkRange_eq_ok_iff
    (text : Text)
    (start stop : Nat) :
    text.checkRange start stop = .ok () ↔
      ∃ head removed tail,
        text = head ++ removed ++ tail ∧
          head.size = start ∧ head.size + removed.size = stop := by
  constructor
  · intro accepted
    rw [checkRange] at accepted
    split at accepted
    · cases accepted
    · rename_i inRange
      split at accepted
      · cases accepted
      · rename_i startBoundary
        split at accepted
        · cases accepted
        · rename_i stopBoundary
          exact exists_parts_of_isBoundary (by omega)
            (by simpa using startBoundary) (by simpa using stopBoundary)
  · rintro ⟨head, removed, tail, rfl, rfl, rfl⟩
    obtain ⟨startBoundary, stopBoundary⟩ := isBoundary_inner head removed tail
    have inRange :
        ¬(head.size + removed.size < head.size ∨
          (head ++ removed ++ tail).size < head.size + removed.size) := by
      simp only [size_append]
      omega
    rw [checkRange, if_neg inRange, startBoundary, stopBoundary]
    rfl

end VersionedText.Text
