/-!
# Ranges of code points

Classes of characters are tables of closed intervals, so that membership is decided by comparing
numbers and holds of nothing that the table does not list.
-/

namespace Calculator.Text

/-- Closed intervals of code points, in increasing order. -/
abbrev Ranges := List (Nat × Nat)

def Ranges.contains (ranges : Ranges) (c : Char) : Bool :=
  ranges.any fun (first, last) => first ≤ c.toNat && c.toNat ≤ last

theorem Ranges.contains_iff {ranges : Ranges} {c : Char} :
    ranges.contains c = true ↔ ∃ r ∈ ranges, r.1 ≤ c.toNat ∧ c.toNat ≤ r.2 := by
  simp [Ranges.contains]

end Calculator.Text
