import Calculator.Binary64.Basic

/-!
# Laws of rounding

A rounded magnitude depends on the value of the quotient alone (`roundUnits_eq_of_cross`), a
magnitude with 53 significant bits rounds to itself (`roundUnits_of_gap_dvd`), and rounding keeps
the leading bit (`two_pow_log2_le_roundUnits`).
-/

namespace Calculator.Binary64

variable {num den num' den' : Nat}

/-! ## The value alone -/

theorem nearest_mul_left {k : Nat} (hk : 0 < k) (num den : Nat) :
    nearest (k * num) (k * den) = nearest num den := by
  have hlt : 2 * (k * (num % den)) < k * den ↔ 2 * (num % den) < den := by
    rw [Nat.mul_left_comm]
    exact Nat.mul_lt_mul_left hk
  have heq : 2 * (k * (num % den)) = k * den ↔ 2 * (num % den) = den := by
    rw [Nat.mul_left_comm]
    exact Nat.mul_right_inj (Nat.ne_of_gt hk)
  simp only [nearest, Nat.mul_mod_mul_left, Nat.mul_div_mul_left _ _ hk, hlt, heq]

theorem roundUnits_mul_left {k : Nat} (hk : 0 < k) (num den : Nat) :
    roundUnits (k * num) (k * den) = roundUnits num den := by
  simp only [roundUnits, Nat.mul_div_mul_left _ _ hk, Nat.mul_assoc, nearest_mul_left hk]

theorem roundUnits_eq_of_cross (h : num * den' = num' * den) (hden : 0 < den) (hden' : 0 < den') :
    roundUnits num den = roundUnits num' den' :=
  calc
    roundUnits num den = roundUnits (den' * num) (den' * den) := (roundUnits_mul_left hden' ..).symm
    _ = roundUnits (den * num') (den * den') := by
      rw [Nat.mul_comm den' num, h, Nat.mul_comm num' den, Nat.mul_comm den' den]
    _ = roundUnits num' den' := roundUnits_mul_left hden ..

/-! ## Exact values -/

theorem nearest_of_dvd (h : den ∣ num) : nearest num den = num / den := by
  have hmod : num % den = 0 := Nat.mod_eq_zero_of_dvd h
  rcases Nat.eq_zero_or_pos den with rfl | hden
  · simp [nearest, Nat.zero_dvd.mp h]
  · simp [nearest, hmod, hden]

theorem roundUnits_of_gap_dvd {units : Nat} (h : gap units ∣ units) :
    roundUnits units 1 = units := by
  simp only [roundUnits, Nat.div_one, Nat.one_mul, nearest_of_dvd h, Nat.div_mul_cancel h]

/-! ## Bounds -/

theorem two_pow_add_places (k : Nat) : 2 ^ (k + places) = 2 ^ k * one :=
  Nat.pow_add ..

theorem nearest_eq_zero (h : 2 * num < den) : nearest num den = 0 := by
  have hlt : num < den := by omega
  simp [nearest, Nat.mod_eq_of_lt hlt, Nat.div_eq_of_lt hlt, h]

theorem roundUnits_eq_zero (h : 2 * num < den) : roundUnits num den = 0 := by
  have hdiv : num / den = 0 := Nat.div_eq_of_lt (by omega)
  have hgap : gap 0 = 1 := rfl
  simp only [roundUnits, hdiv, hgap, Nat.mul_one, nearest_eq_zero h]

theorem two_pow_log2_le_roundUnits (h : num / den ≠ 0) :
    2 ^ (num / den).log2 ≤ roundUnits num den := by
  have hdvd : gap (num / den) ∣ 2 ^ (num / den).log2 := Nat.pow_dvd_pow 2 (Nat.sub_le ..)
  calc
    2 ^ (num / den).log2
        = 2 ^ (num / den).log2 / gap (num / den) * gap (num / den) := (Nat.div_mul_cancel hdvd).symm
    _ ≤ num / den / gap (num / den) * gap (num / den) :=
      Nat.mul_le_mul_right _ (Nat.div_le_div_right (Nat.log2_self_le h))
    _ ≤ roundUnits num den := by
      rw [Nat.div_div_eq_div_mul]
      exact Nat.mul_le_mul_right _ (div_le_nearest ..)

theorem two_pow_le_roundUnits {k : Nat} (h : 2 ^ k ≤ num / den) : 2 ^ k ≤ roundUnits num den := by
  have hne : num / den ≠ 0 := Nat.ne_of_gt (Nat.lt_of_lt_of_le (Nat.two_pow_pos k) h)
  refine Nat.le_trans ?_ (two_pow_log2_le_roundUnits hne)
  exact Nat.pow_le_pow_right (by decide) ((Nat.le_log2 hne).mpr h)

theorem gap_le (units : Nat) : gap units ≤ units + 1 := by
  by_cases hne : units = 0
  · simp [hne, gap]
  · calc
      gap units ≤ 2 ^ units.log2 := Nat.pow_le_pow_right (by decide) (Nat.sub_le ..)
      _ ≤ units := Nat.log2_self_le hne
      _ ≤ units + 1 := Nat.le_succ units

theorem roundUnits_le (num den : Nat) : roundUnits num den ≤ 2 * (num / den) + 1 := by
  have hgap := gap_le (num / den)
  calc
    roundUnits num den
        ≤ (num / (den * gap (num / den)) + 1) * gap (num / den) :=
          Nat.mul_le_mul_right _ (nearest_le ..)
    _ = num / den / gap (num / den) * gap (num / den) + gap (num / den) := by
          rw [Nat.add_mul, Nat.one_mul, Nat.div_div_eq_div_mul]
    _ ≤ num / den + gap (num / den) := Nat.add_le_add_right (Nat.div_mul_le_self ..) _
    _ ≤ 2 * (num / den) + 1 := by omega

/-! ## Signs -/

theorem natAbs_signed (negative : Bool) (m : Nat) : (signed negative m).natAbs = m := by
  cases negative with
  | false => exact Int.natAbs_natCast m
  | true => exact (Int.natAbs_neg _).trans (Int.natAbs_natCast m)

end Calculator.Binary64
