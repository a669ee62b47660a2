import Calculator.Expr.Outline

/-!
# The height of outlines

`Expr.outlineHeight` counts the calls that are open at once while an expression is outlined. An outline
fails exactly when there is room for fewer (`checkOutline_eq_ok_iff`), and for no other reason.
-/

namespace Calculator.Expr

mutual

/-- The calls that are open at the deepest place of an outline. -/
def outlineHeight : Expr → Nat
  | .number _ | .text _ => 3
  | .signed _ operand => operand.outlineHeight + 1
  | .binary left _ right => max left.outlineHeight right.outlineHeight + 1
  | .call _ arguments => max 1 (outlineHeights arguments) + 1
  | .bare => 2

def outlineHeights : List Expr → Nat
  | [] => 0
  | e :: es => max e.outlineHeight (outlineHeights es)

end

theorem outlineHeight_pos (e : Expr) : 0 < e.outlineHeight := by
  cases e <;> simp [outlineHeight]

theorem two_le_outlineHeight (e : Expr) : 2 ≤ e.outlineHeight := by
  cases e with
  | number | text | bare => simp [outlineHeight]
  | signed sign operand =>
    have := operand.outlineHeight_pos
    rw [outlineHeight]
    omega
  | binary left op right =>
    have := left.outlineHeight_pos
    rw [outlineHeight]
    omega
  | call name arguments =>
    rw [outlineHeight]
    omega

section

variable {ε : Type} {x y : Except ε Unit}

theorem bind_unit_eq_ok : (do x; y) = .ok () ↔ x = .ok () ∧ y = .ok () := by
  cases x <;> simp [bind, Except.bind]

theorem bind_unit_eq_error {error : ε} :
    (do x; y) = .error error ↔ x = .error error ∨ x = .ok () ∧ y = .error error := by
  cases x <;> simp [bind, Except.bind]

end

mutual

theorem checkOutline_eq_ok_iff (calls : Nat) (e : Expr) :
    e.checkOutline calls = .ok () ↔ e.outlineHeight ≤ calls := by
  have hheight := e.two_le_outlineHeight
  rw [checkOutline.eq_def]
  split
  · next hcalls => exact ⟨nofun, fun h => by omega⟩
  cases e with
  | number | text =>
    simp only [outlineHeight]
    split <;> simp <;> omega
  | signed sign operand =>
    simp only [outlineHeight, checkOutline_eq_ok_iff (calls - 1) operand]
    omega
  | binary left op right =>
    simp only [outlineHeight, bind_unit_eq_ok, checkOutline_eq_ok_iff (calls - 1) left,
      checkOutline_eq_ok_iff (calls - 1) right]
    omega
  | call name arguments =>
    simp only [outlineHeight, checkOutlines_eq_ok_iff (calls - 1) arguments]
    omega
  | bare =>
    simp only [outlineHeight, true_iff]
    omega

theorem checkOutlines_eq_ok_iff (calls : Nat) (es : List Expr) :
    checkOutlines calls es = .ok () ↔ outlineHeights es ≤ calls := by
  cases es with
  | nil => simp [checkOutlines, outlineHeights]
  | cons e es =>
    simp only [checkOutlines, outlineHeights, bind_unit_eq_ok, checkOutline_eq_ok_iff calls e,
      checkOutlines_eq_ok_iff calls es]
    omega

end

def OfHeight (fault : Fault) : Prop :=
  fault = .treeTooDeep ∨ fault = .literalTooDeep

mutual

theorem ofHeight_of_checkOutline {calls : Nat} {e : Expr} {fault : Fault}
    (h : e.checkOutline calls = .error fault) : OfHeight fault := by
  rw [checkOutline.eq_def] at h
  split at h
  · cases h
    exact .inl rfl
  cases e with
  | number | text =>
    simp only at h
    split at h
    · cases h
      exact .inr rfl
    · cases h
  | signed sign operand => exact ofHeight_of_checkOutline h
  | binary left op right =>
    rcases bind_unit_eq_error.mp h with hleft | ⟨-, hright⟩
    · exact ofHeight_of_checkOutline hleft
    · exact ofHeight_of_checkOutline hright
  | call name arguments => exact ofHeight_of_checkOutlines h
  | bare => cases h

theorem ofHeight_of_checkOutlines {calls : Nat} {es : List Expr} {fault : Fault}
    (h : checkOutlines calls es = .error fault) : OfHeight fault := by
  cases es with
  | nil => cases h
  | cons e es =>
    rcases bind_unit_eq_error.mp h with hfirst | ⟨-, hrest⟩
    · exact ofHeight_of_checkOutline hfirst
    · exact ofHeight_of_checkOutlines hrest

end

end Calculator.Expr
