import Calculator.Proofs.Binary64.Nearest
import Calculator.Proofs.Binary64.Rounding

/-!
# Integers as binary numbers

The number nearest to an integer is finite below a bound half a step under the limit
(`isFinite_ofInt`). It is an integer again, and no integer that is a number is nearer
(`natAbs_sub_nearestInt_le`). Up to 2^53 every integer is a number.
-/

namespace Calculator.Binary64

/-! ## Magnitudes -/

theorem one_dvd_roundUnits (k : Nat) : one ∣ roundUnits (k * one) 1 := by
  rcases Nat.le_total ((k * one).log2 - 52) places with hfine | hcoarse
  · have hgap : gap (k * one) ∣ k * one :=
      Nat.dvd_trans (Nat.pow_dvd_pow 2 hfine) (Nat.dvd_mul_left one k)
    rw [roundUnits_of_gap_dvd hgap]
    exact Nat.dvd_mul_left one k
  · have hone : one ∣ gap (k * one) := Nat.pow_dvd_pow 2 hcoarse
    rw [roundUnits, Nat.div_one]
    exact Nat.dvd_trans hone (Nat.dvd_mul_left _ _)

def lastGap : Nat :=
  2 ^ (971 + places)

theorem lastGap_pos : 0 < lastGap :=
  Nat.two_pow_pos (971 + places)

theorem limit_eq : limit = 2 ^ 53 * lastGap := by
  rw [limit, lastGap, ← Nat.pow_add, ← Nat.add_assoc]

theorem gap_eq_lastGap {units : Nat} (hlow : limit ≤ 2 * units) (hhigh : units < limit) :
    gap units = lastGap := by
  have hlimit : limit = 2 * 2 ^ (1023 + places) := by
    rw [limit, ← Nat.pow_succ', Nat.succ_eq_add_one, Nat.add_right_comm]
  have hne : units ≠ 0 := by
    have := limit_pos
    omega
  have hlog : units.log2 = 1023 + places := by
    refine (Nat.log2_eq_iff hne).mpr ⟨by omega, ?_⟩
    rwa [Nat.pow_succ', ← hlimit]
  have hlast : 1023 + places - 52 = 971 + places := by omega
  rw [gap, hlog, hlast, lastGap]

theorem roundUnits_lt_limit_iff (units : Nat) :
    roundUnits units 1 < limit ↔ 2 * units + lastGap < 2 * limit := by
  have hlimit := limit_eq
  by_cases hhigh : limit ≤ units
  · have hround : limit ≤ roundUnits units 1 := two_pow_le_roundUnits (by rwa [Nat.div_one])
    omega
  by_cases hlow : limit ≤ 2 * units
  · have hgap := gap_eq_lastGap hlow (Nat.lt_of_not_le hhigh)
    obtain ⟨q, r, hunits, hr, hcases⟩ := nearest_cases lastGap_pos units
    rw [roundUnits, Nat.div_one, hgap, Nat.one_mul, limit_eq, Nat.mul_lt_mul_right lastGap_pos]
    rw [limit_eq] at hhigh
    have hq : q < 2 ^ 53 := by
      refine Nat.lt_of_mul_lt_mul_right (a := lastGap) ?_
      omega
    rcases Nat.lt_or_eq_of_le (show q + 1 ≤ 2 ^ 53 from hq) with hstep | hstep
    · have hroom := succ_mul_le lastGap hstep
      rw [Nat.succ_mul] at hroom
      omega
    · obtain rfl : q = 2 ^ 53 - 1 := by omega
      omega
  · have hround := roundUnits_le units 1
    rw [Nat.div_one] at hround
    omega

/-! ## Integers -/

/-- The integer that is nearest to `n` of those that are numbers. -/
def nearestInt (n : Int) : Int :=
  signed (n < 0) (roundUnits (n.natAbs * one) 1 / one)

theorem toInt?_ofInt {n : Int} (h : (ofInt n).isFinite = true) :
    (ofInt n).toInt? = some (nearestInt n) := by
  rw [ofInt, round, ofUnits] at h ⊢
  split at h
  · next hlt =>
    rw [dif_pos hlt]
    exact if_pos (Nat.mod_eq_zero_of_dvd (one_dvd_roundUnits _))
  · cases h

theorem limit_eq_mul_one : limit = 2 ^ 1024 * one :=
  two_pow_add_places 1024

theorem lastGap_eq_mul_one : lastGap = 2 * (2 ^ 970 * one) := by
  rw [← two_pow_add_places, ← Nat.pow_succ', Nat.succ_eq_add_one, Nat.add_right_comm, lastGap]

theorem isFinite_ofInt {n : Int} :
    (ofInt n).isFinite = true ↔ n.natAbs < 2 ^ 1024 - 2 ^ 970 := by
  have hround : (ofInt n).isFinite = true ↔ roundUnits (n.natAbs * one) 1 < limit := by
    rw [ofInt, round, ofUnits]
    split <;> simp_all [isFinite]
  have hbound := roundUnits_lt_limit_iff (n.natAbs * one)
  rw [lastGap_eq_mul_one, ← Nat.mul_add, Nat.mul_lt_mul_left (by decide), ← Nat.add_mul,
    limit_eq_mul_one, Nat.mul_lt_mul_right one_pos] at hbound
  rw [hround, limit_eq_mul_one, hbound, Nat.lt_sub_iff_add_lt]

theorem signed_natAbs (n : Int) : signed (n < 0) n.natAbs = n := by
  by_cases hn : n < 0
  · rw [decide_eq_true hn]
    change -(n.natAbs : Int) = n
    omega
  · rw [decide_eq_false hn]
    change (n.natAbs : Int) = n
    omega

theorem natAbs_sub_signed_le {n k : Int} {m : Nat} (h : m.dist n.natAbs ≤ k.natAbs.dist n.natAbs) :
    (n - signed (n < 0) m).natAbs ≤ (n - k).natAbs := by
  unfold Nat.dist at h
  by_cases hn : n < 0
  · rw [decide_eq_true hn]
    change (n - -(m : Int)).natAbs ≤ (n - k).natAbs
    omega
  · rw [decide_eq_false hn]
    change (n - (m : Int)).natAbs ≤ (n - k).natAbs
    omega

theorem exists_toInt?_iff {k : Int} :
    (∃ y : Binary64, y.toInt? = some k) ↔ Representable (k.natAbs * one) := by
  constructor
  · rintro ⟨y, hy⟩
    cases y with
    | finite negative units h =>
      simp only [toInt?] at hy
      split at hy
      · next hmod =>
        cases hy
        rwa [natAbs_signed, Nat.div_mul_cancel (Nat.dvd_of_mod_eq_zero hmod)]
      · cases hy
    | nan | infinite => cases hy
  · intro h
    refine ⟨.finite (k < 0) _ h, ?_⟩
    rw [toInt?, if_pos (Nat.mul_mod_left ..), Nat.mul_div_cancel _ one_pos, signed_natAbs]

/-- No integer that is a number is nearer. -/
theorem natAbs_sub_nearestInt_le (n : Int) {y : Binary64} {k : Int} (h : y.toInt? = some k) :
    (n - nearestInt n).natAbs ≤ (n - k).natAbs := by
  have hgap := (exists_toInt?_iff.mp ⟨y, h⟩).2
  have hnear := dist_roundUnits_le Nat.one_pos (n.natAbs * one) hgap
  rw [Nat.mul_one, Nat.mul_one, ← Nat.div_mul_cancel (one_dvd_roundUnits n.natAbs),
    Nat.dist_mul_right, Nat.dist_mul_right] at hnear
  exact natAbs_sub_signed_le (Nat.le_of_mul_le_mul_right hnear one_pos)

theorem nearestInt_eq_self_iff {n : Int} (h : (ofInt n).isFinite = true) :
    nearestInt n = n ↔ ∃ y : Binary64, y.toInt? = some n := by
  constructor
  · intro hself
    exact ⟨ofInt n, by rw [toInt?_ofInt h, hself]⟩
  · rintro ⟨y, hy⟩
    have hnear := natAbs_sub_nearestInt_le n hy
    omega

theorem exists_toInt?_of_le {n : Int} (h : n.natAbs ≤ 2 ^ 53) :
    ∃ y : Binary64, y.toInt? = some n := by
  refine exists_toInt?_iff.mpr ⟨?_, gap_dvd_of_le h places⟩
  rw [limit_eq_mul_one, Nat.mul_lt_mul_right one_pos]
  calc
    n.natAbs ≤ 2 ^ 53 := h
    _ < 2 ^ 1024 := by decide +kernel

end Calculator.Binary64
