/-!
# Ranges of characters

A set of characters written as the ranges it consists of, from the first character to the last.
-/

namespace MapBacked.Text

/-- Whether the character lies in one of the ranges, both ends included. -/
def isWithin (ranges : List (Nat × Nat)) (c : Char) : Bool :=
  ranges.any fun r => r.1 ≤ c.toNat && c.toNat ≤ r.2

theorem isWithin_iff {ranges : List (Nat × Nat)} {c : Char} :
    isWithin ranges c = true ↔ ∃ r ∈ ranges, r.1 ≤ c.toNat ∧ c.toNat ≤ r.2 := by
  simp [isWithin]

end MapBacked.Text
