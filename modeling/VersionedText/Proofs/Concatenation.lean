import VersionedText.Proofs.LineBreaks

namespace VersionedText.Text

/-!
# Line breaks of a concatenation

Put one behind the other, two texts keep their line breaks, those of the second
moved along.  There is one exception: a carriage return at the end of the first
and a line feed at the front of the second, each a break of its own before, make
one break together.  Whatever rescans only a part of a text rests on this at both
edges of the part.
-/

/-- A carriage return at the end of a text is its last break. -/
theorem lineBreaks_append_return (front : Text) :
    lineBreaks (front ++ ['\r']) = lineBreaks front ++ [⟨front.size, front.size + 1⟩] := by
  rw [lineBreaks, lineBreaksFrom_append (not_splitsPair_before_pair front []), Nat.zero_add]
  rfl

/-- A line feed at the front of a text is its first break. -/
theorem lineBreaks_feed (rest : Text) :
    lineBreaks ('\n' :: rest) = ⟨0, 1⟩ :: lineBreaksFrom 1 rest := by
  have unpaired : ¬SplitsPair ['\n'] rest := by
    rintro ⟨⟨⟩, -⟩
  exact lineBreaksFrom_cons unpaired 0

/-- A carriage return and a line feed that meet are one break. -/
theorem lineBreaks_append_pair (front rest : Text) :
    lineBreaks (front ++ ['\r'] ++ '\n' :: rest) =
      lineBreaks front ++
        ⟨front.size, front.size + 2⟩ ::
          (lineBreaksFrom 1 rest).map fun lineBreak => lineBreak.shift (front.size + 1) := by
  have place : 1 + (front.size + 1) = front.size + 2 := by
    omega
  rw [List.append_assoc, List.singleton_append, lineBreaks,
    lineBreaksFrom_append (not_splitsPair_before_pair front ('\n' :: rest)), Nat.zero_add,
    lineBreaksFrom_pair, ← lineBreaksFrom_add, place]
  rfl

/-- The texts that a cut through a pair leaves. -/
theorem SplitsPair.exists_ends
    {first second : Text}
    (splits : SplitsPair first second) :
    ∃ front rest, first = front ++ ['\r'] ∧ second = '\n' :: rest := by
  obtain ⟨last, head⟩ := splits
  obtain ⟨front, firstShape⟩ := List.getLast?_eq_some_iff.mp last
  obtain ⟨rest, secondShape⟩ := List.head?_eq_some_iff.mp head
  exact ⟨front, rest, firstShape, secondShape⟩

/--
The breaks of a concatenation are those of its parts, those of the second moved
along, exactly when no pair is made where the parts meet.  When one is made, the
last break of the first and the first break of the second give way to it.
-/
theorem lineBreaks_append (first second : Text) :
    (lineBreaks (first ++ second) =
          lineBreaks first ++
            (lineBreaks second).map (fun lineBreak => lineBreak.shift first.size) ↔
        ¬SplitsPair first second) ∧
      (SplitsPair first second →
        ∃ earlier later,
          lineBreaks first = earlier ++ [⟨first.size - 1, first.size⟩] ∧
            lineBreaks second = ⟨0, 1⟩ :: later ∧
            lineBreaks (first ++ second) =
              earlier ++ ⟨first.size - 1, first.size + 1⟩ ::
                later.map fun lineBreak => lineBreak.shift first.size) := by
  refine ⟨⟨?_, ?_⟩, ?_⟩
  · intro plain splits
    obtain ⟨front, rest, rfl, rfl⟩ := splits.exists_ends
    have lengths := congrArg List.length plain
    rw [lineBreaks_append_pair, lineBreaks_append_return, lineBreaks_feed] at lengths
    simp only [List.length_append, List.length_cons, List.length_map, List.length_nil] at lengths
    omega
  · intro whole
    rw [lineBreaks, lineBreaksFrom_append whole, lineBreaksFrom_add]
    rfl
  · intro splits
    obtain ⟨front, rest, rfl, rfl⟩ := splits.exists_ends
    have size : (front ++ ['\r']).size = front.size + 1 := size_append front ['\r']
    rw [size, Nat.add_sub_cancel]
    exact ⟨lineBreaks front, lineBreaksFrom 1 rest, lineBreaks_append_return front,
      lineBreaks_feed rest, lineBreaks_append_pair front rest⟩

/-- Between two other breaks a carriage return and a line feed become one. -/
theorem lineBreaks_append_joining :
    let first : Text := ['\n', 'é', '\r']
    let second : Text := ['\n', '\u2028', 'b']
    SplitsPair first second ∧
      ∃ earlier later,
        lineBreaks first = earlier ++ [⟨3, 4⟩] ∧
          lineBreaks second = ⟨0, 1⟩ :: later ∧
          lineBreaks (first ++ second) =
            earlier ++ ⟨3, 5⟩ :: later.map fun lineBreak => lineBreak.shift 4 := by
  intro first second
  have splits : SplitsPair first second := ⟨rfl, rfl⟩
  exact ⟨splits, (lineBreaks_append first second).2 splits⟩

end VersionedText.Text
