/-!
Ranges of code points, and membership in them.
-/

namespace PageBuffer.Text

/-- Code points from the first number to the second, both included. -/
abbrev Ranges := List (Nat × Nat)

def Ranges.contains (ranges : Ranges) (character : Char) : Bool :=
  ranges.any fun (first, last) => first ≤ character.toNat && character.toNat ≤ last

theorem Ranges.contains_iff {ranges : Ranges} {character : Char} :
    ranges.contains character = true ↔
      ∃ range ∈ ranges, range.1 ≤ character.toNat ∧ character.toNat ≤ range.2 := by
  simp [Ranges.contains]

end PageBuffer.Text
