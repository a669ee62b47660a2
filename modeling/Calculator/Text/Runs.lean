/-!
# Runs

The longest run of characters of a class at the front of a text, and what is left behind it.
-/

namespace Calculator.Text

variable {α : Type}

theorem length_dropWhile_le (p : α → Bool) (l : List α) : (l.dropWhile p).length ≤ l.length := by
  induction l with
  | nil => simp
  | cons a l ih =>
    rw [List.dropWhile_cons]
    split
    · exact Nat.le_succ_of_le ih
    · exact Nat.le_refl _

end Calculator.Text
