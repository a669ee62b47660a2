import Mathlib.Data.Nat.Dist
import Calculator.Binary64.Arithmetic

/-!
# Rounding goes to the nearest

No whole number is nearer to a quotient than `nearest` (`dist_nearest_le`), and of two that are as
near it is the even one (`nearest_eq_of_dist`). No magnitude with 53 significant bits is nearer to a
quotient than `roundUnits` (`dist_roundUnits_le`).
-/

namespace Calculator.Binary64

variable {num den : Nat}

theorem succ_mul_le {k n : Nat} (den : Nat) (h : k < n) : k * den + den ≤ n * den := by
  rw [← Nat.succ_mul]
  exact Nat.mul_le_mul_right den h

theorem nearest_cases (hden : 0 < den) (num : Nat) :
    ∃ q r, num = q * den + r ∧ r < den ∧
      ((nearest num den = q ∧ 2 * r ≤ den ∧ (2 * r = den → q % 2 = 0)) ∨
        (nearest num den = q + 1 ∧ den ≤ 2 * r ∧ (2 * r = den → q % 2 = 1))) := by
  refine ⟨num / den, num % den, (Nat.div_add_mod' num den).symm, Nat.mod_lt num hden, ?_⟩
  unfold nearest
  split
  · exact .inl ⟨rfl, by omega⟩
  · exact .inr ⟨rfl, by omega⟩

theorem dist_nearest_le (hden : 0 < den) (num k : Nat) :
    (nearest num den * den).dist num ≤ (k * den).dist num := by
  obtain ⟨q, r, rfl, hr, hcases⟩ := nearest_cases hden num
  have hside : k * den ≤ q * den ∨ q * den + den ≤ k * den := by
    rcases Nat.lt_or_ge q k with h | h
    · exact .inr (succ_mul_le den h)
    · exact .inl (Nat.mul_le_mul_right den h)
  have hnext : (q + 1) * den = q * den + den := Nat.succ_mul q den
  unfold Nat.dist
  rcases hcases with ⟨hq, hlow, -⟩ | ⟨hq, hhigh, -⟩ <;> rw [hq] <;> omega

theorem two_mul_dist_nearest_le (hden : 0 < den) (num : Nat) :
    2 * (nearest num den * den).dist num ≤ den ∧
      (2 * (nearest num den * den).dist num = den → nearest num den % 2 = 0) := by
  obtain ⟨q, r, rfl, hr, hcases⟩ := nearest_cases hden num
  have hnext : (q + 1) * den = q * den + den := Nat.succ_mul q den
  unfold Nat.dist
  rcases hcases with ⟨hq, hlow, heven⟩ | ⟨hq, hhigh, hodd⟩ <;> rw [hq] <;> omega

theorem nearest_eq_of_dist (hden : 0 < den) {n : Nat} (h : 2 * (n * den).dist num ≤ den)
    (heven : 2 * (n * den).dist num = den → n % 2 = 0) : nearest num den = n := by
  obtain ⟨q, r, rfl, hr, hcases⟩ := nearest_cases hden num
  have hnext : (q + 1) * den = q * den + den := Nat.succ_mul q den
  unfold Nat.dist at h heven
  rcases Nat.lt_trichotomy n q with hn | rfl | hn
  · have := succ_mul_le den hn
    omega
  · rcases hcases with ⟨hq, -, -⟩ | ⟨-, hhigh, hodd⟩
    · exact hq
    · omega
  · rcases Nat.eq_or_lt_of_le (show q + 1 ≤ n from hn) with rfl | hn
    · rcases hcases with ⟨-, hlow, htie⟩ | ⟨hq, -, -⟩
      · omega
      · exact hq
    · have := succ_mul_le den hn
      omega

theorem nearest_of_dist_le (hden : 0 < den) {num' : Nat}
    (h : (nearest num den * den).dist num' ≤ (nearest num den * den).dist num) :
    nearest num' den = nearest num den := by
  obtain ⟨hbound, heven⟩ := two_mul_dist_nearest_le hden num
  exact nearest_eq_of_dist hden (by omega) (by omega)

/-- No magnitude with 53 significant bits is nearer. -/
theorem dist_roundUnits_le (hden : 0 < den) (num : Nat) {units : Nat} (h : gap units ∣ units) :
    (roundUnits num den * den).dist num ≤ (units * den).dist num := by
  have hmultiple {k : Nat} (hk : gap (num / den) ∣ k) :
      (roundUnits num den * den).dist num ≤ (k * den).dist num := by
    obtain ⟨m, rfl⟩ := hk
    have hassoc (k : Nat) : k * gap (num / den) * den = k * (den * gap (num / den)) := by
      rw [Nat.mul_assoc, Nat.mul_comm (gap _)]
    rw [roundUnits, hassoc, Nat.mul_comm (gap _) m, hassoc]
    exact dist_nearest_le (Nat.mul_pos hden (Nat.two_pow_pos _)) num m
  by_cases hzero : num / den = 0
  · exact hmultiple (by rw [hzero]; exact Nat.one_dvd units)
  by_cases hbit : 2 ^ (num / den).log2 ≤ units
  · -- With as many bits as the quotient a magnitude is on its grid.
    have hne : units ≠ 0 := Nat.ne_of_gt (Nat.lt_of_lt_of_le (Nat.two_pow_pos _) hbit)
    have hlog : (num / den).log2 ≤ units.log2 := (Nat.le_log2 hne).mpr hbit
    exact hmultiple (Nat.dvd_trans (Nat.pow_dvd_pow 2 (by omega)) h)
  · -- The leading bit is a multiple of the gap, and stands between the magnitude and the quotient.
    have hdvd : gap (num / den) ∣ 2 ^ (num / den).log2 := Nat.pow_dvd_pow 2 (Nat.sub_le ..)
    have habove : units * den ≤ 2 ^ (num / den).log2 * den :=
      Nat.mul_le_mul_right den (Nat.le_of_not_le hbit)
    have hbelow : 2 ^ (num / den).log2 * den ≤ num :=
      Nat.le_trans (Nat.mul_le_mul_right den (Nat.log2_self_le hzero)) (Nat.div_mul_le_self num den)
    have hnear := hmultiple hdvd
    unfold Nat.dist at hnear ⊢
    omega

end Calculator.Binary64
