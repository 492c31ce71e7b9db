/-!
# Sets of characters

A set of characters is a list of ranges of code points, with both ends of each.
-/

namespace OneBit.Text

abbrev CharSet := List (Nat × Nat)

/-- Whether one of the ranges has the character. -/
def CharSet.contains (set : CharSet) (c : Char) : Bool :=
  set.any fun (first, last) => first ≤ c.toNat && c.toNat ≤ last

theorem CharSet.contains_iff {set : CharSet} {c : Char} :
    set.contains c ↔ ∃ range ∈ set, range.1 ≤ c.toNat ∧ c.toNat ≤ range.2 := by
  simp [CharSet.contains]

end OneBit.Text
