import Mathlib.Algebra.Order.Field.Rat
import Mathlib.Algebra.Order.Field.Power
import Mathlib.Tactic.FieldSimp
import Mathlib.Tactic.Ring
import Calculator.Decimal.Basic
import Calculator.Proofs.Binary64.Rounding

/-!
# The value of a decimal

Decimals of equal value have the same nearest magnitude (`units_eq_of_value_eq`). The two short cuts
of `toBinary64` are only that: it gives the nearest magnitude of every decimal (`toBinary64_eq`).
-/

namespace Calculator.Decimal

def value (d : Decimal) : ℚ :=
  d.digits * 10 ^ d.exponent

theorem zpow_toNat (e : Int) : (10 : ℚ) ^ e = 10 ^ e.toNat / 10 ^ (-e).toNat := by
  rcases Int.le_total 0 e with h | h
  · lift e to Nat using h
    simp
  · obtain ⟨n, rfl⟩ : ∃ n : Nat, e = -n := ⟨e.natAbs, by omega⟩
    simp

theorem value_shift (digits : Nat) (exponent : Int) (n : Nat) :
    value ⟨digits * 10 ^ n, exponent⟩ = value ⟨digits, exponent + n⟩ := by
  simp only [value, Nat.cast_mul, Nat.cast_pow, Nat.cast_ofNat]
  rw [zpow_add₀ (by norm_num), zpow_natCast]
  ring

theorem units_eq_of_value_eq {d d' : Decimal} (h : d.value = d'.value) : d.units = d'.units := by
  refine Binary64.roundUnits_eq_of_cross ?_ (Nat.pow_pos (by decide)) (Nat.pow_pos (by decide))
  rw [value, value, zpow_toNat, zpow_toNat] at h
  field_simp at h
  have hcross : d.digits * 10 ^ d.exponent.toNat * 10 ^ (-d'.exponent).toNat =
      10 ^ (-d.exponent).toNat * d'.digits * 10 ^ d'.exponent.toNat := by
    exact_mod_cast h
  rw [Nat.mul_right_comm, hcross]
  ring

/-! ## The short cuts -/

theorem units_of_digits_eq_zero {d : Decimal} (h : d.digits = 0) : d.units = 0 := by
  refine Binary64.roundUnits_eq_zero ?_
  simp [h]

theorem four_mul_one_le : 2 * 2 * Binary64.one ≤ 10 ^ 325 := by decide +kernel

theorem two_pow_1024_le : 2 ^ 1024 ≤ 10 ^ 309 := by decide +kernel

theorem units_of_low {d : Decimal} (h : d.exponent + d.digits.log2 + 325 ≤ 0) : d.units = 0 := by
  -- A bit of the digits costs at most one power of ten, and 325 of them outweigh one unit.
  have hexp : d.exponent.toNat = 0 := by omega
  obtain ⟨k, hk⟩ : ∃ k, (-d.exponent).toNat = d.digits.log2 + 325 + k :=
    ⟨(-d.exponent).toNat - (d.digits.log2 + 325), by omega⟩
  refine Binary64.roundUnits_eq_zero ?_
  rw [hexp, hk, Nat.pow_zero, Nat.mul_one]
  calc
    2 * (d.digits * Binary64.one)
        < 2 * (2 ^ (d.digits.log2 + 1) * Binary64.one) :=
      Nat.mul_lt_mul_of_pos_left
        (Nat.mul_lt_mul_of_pos_right Nat.lt_log2_self Binary64.one_pos) (by decide)
    _ = 2 ^ d.digits.log2 * (2 * 2 * Binary64.one) := by ring
    _ ≤ 10 ^ d.digits.log2 * 10 ^ 325 :=
      Nat.mul_le_mul (Nat.pow_le_pow_left (by decide) _) four_mul_one_le
    _ ≤ 10 ^ (d.digits.log2 + 325 + k) := by
      rw [← Nat.pow_add]
      exact Nat.pow_le_pow_right (by decide) (Nat.le_add_right ..)

theorem limit_le_units {d : Decimal} (hne : d.digits ≠ 0) (h : 309 ≤ d.exponent) :
    Binary64.limit ≤ d.units := by
  have hden : (-d.exponent).toNat = 0 := by omega
  have hexp : 309 ≤ d.exponent.toNat := by omega
  have hpow : 10 ^ 309 ≤ 10 ^ d.exponent.toNat := by gcongr; decide
  refine Binary64.two_pow_le_roundUnits ?_
  rw [hden, Nat.pow_zero, Nat.div_one]
  calc
    2 ^ (1024 + Binary64.places) = 2 ^ 1024 * Binary64.one := Binary64.two_pow_add_places 1024
    _ ≤ 10 ^ 309 * Binary64.one := Nat.mul_le_mul_right _ two_pow_1024_le
    _ ≤ 10 ^ d.exponent.toNat * Binary64.one := Nat.mul_le_mul_right _ hpow
    _ ≤ d.digits * 10 ^ d.exponent.toNat * Binary64.one :=
      Nat.mul_le_mul_right _ (Nat.le_mul_of_pos_left _ (Nat.pos_of_ne_zero hne))

theorem ofUnits_zero {negative : Bool} {units : Nat} (h : units = 0)
    (hgap : Binary64.gap units ∣ units) :
    Binary64.ofUnits negative units hgap = .zero negative := by
  subst h
  exact dif_pos Binary64.limit_pos

theorem toBinary64_eq (negative : Bool) (d : Decimal) :
    d.toBinary64 negative = .ofUnits negative d.units d.gap_dvd_units := by
  unfold toBinary64
  split
  · next h =>
    have hzero : d.units = 0 := h.elim units_of_digits_eq_zero units_of_low
    rw [ofUnits_zero hzero]
  · next h =>
    split
    · next hhigh =>
      have hlimit := limit_le_units (fun hne => h (.inl hne)) hhigh
      rw [Binary64.ofUnits, dif_neg (Nat.not_lt.mpr hlimit)]
    · rfl

theorem toBinary64_of_units {d : Decimal} {units : Nat} (negative : Bool) (h : d.units = units)
    (hrep : Binary64.Representable units) :
    d.toBinary64 negative = .finite negative units hrep := by
  subst h
  rw [toBinary64_eq]
  exact dif_pos hrep.1

end Calculator.Decimal
