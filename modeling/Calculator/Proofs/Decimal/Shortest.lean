import Calculator.Decimal.Shortest
import Calculator.Proofs.Decimal.Value

/-!
# Shortest decimals read back

Whatever the search for a shortest decimal ends with rounds to the magnitude it was made for
(`shortest_units`).
-/

namespace Calculator.Decimal

theorem exact_units {units : Nat} (h : Binary64.gap units ∣ units) :
    (exact units).units = units := by
  have hcross : units * 5 ^ Binary64.places * Binary64.one * 1 = units * 10 ^ Binary64.places := by
    rw [Nat.mul_one, Nat.mul_assoc, Binary64.one, ← Nat.mul_pow]
  have hzero : (-(Binary64.places : Int)).toNat = 0 := by simp
  have hplaces : (- -(Binary64.places : Int)).toNat = Binary64.places := by simp
  rw [Decimal.units, exact, hzero, hplaces, Nat.pow_zero, Nat.mul_one,
    Binary64.roundUnits_eq_of_cross hcross (Nat.pow_pos (by decide)) Nat.one_pos,
    Binary64.roundUnits_of_gap_dvd h]

theorem onGrid?_units {units : Nat} {exponent : Int} {d : Decimal}
    (h : onGrid? units exponent = some d) : d.units = units := by
  unfold onGrid? at h
  simpa using List.find?_some h

theorem trimPower_value (count : Nat) (d : Decimal) : (trimPower count d).value = d.value := by
  unfold trimPower
  split
  · next h =>
    rw [← value_shift, Nat.one_mul, ← h]
  · rfl

theorem withDigits?_units {units count : Nat} {d : Decimal} (h : withDigits? units count = some d) :
    d.units = units := by
  obtain ⟨grid, hgrid, rfl⟩ := Option.map_eq_some_iff.mp h
  rw [units_eq_of_value_eq (trimPower_value count grid)]
  exact onGrid?_units hgrid

theorem shortest_units {units : Nat} (h : Binary64.gap units ∣ units) :
    (shortest units).units = units := by
  unfold shortest
  cases hsearch : (List.range' 1 17).findSome? (withDigits? units) with
  | none => exact exact_units h
  | some d =>
    obtain ⟨count, -, hcount⟩ := List.exists_of_findSome?_eq_some hsearch
    exact withDigits?_units hcount

end Calculator.Decimal
