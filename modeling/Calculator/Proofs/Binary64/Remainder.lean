import Mathlib.Algebra.Order.Field.Basic
import Mathlib.Data.Sign.Basic
import Calculator.Proofs.Trap.Arithmetic
import Calculator.Proofs.Value.ReadBack

/-!
# Remainders are exact

Which rational number the remainder of a division toward zero is, is said by `IsRemainder`, and
there is only one. The remainder of two numbers is a number with this value, so nothing is rounded,
however many bits the quotient has. Where there is no remainder it is not-a-number, and in no case
is the partial operation asked for more than it can do (`modulo_exact`).
-/

namespace Calculator

/-! ## Rational remainders -/

/-- What is left of `a` when whole multiples of `b` have been taken away, toward zero. -/
structure IsRemainder (a b c : ℚ) : Prop where
  lt : |c| < |b|
  multiple : ∃ k : ℤ, a - c = k * b
  sign : c = 0 ∨ SignType.sign c = SignType.sign a

namespace IsRemainder

variable {a b c c' : ℚ}

theorem neg (h : IsRemainder a b c) : IsRemainder (-a) b (-c) := by
  obtain ⟨k, hk⟩ := h.multiple
  constructor
  case lt => rw [abs_neg]; exact h.lt
  case multiple =>
    refine ⟨-k, ?_⟩
    push_cast
    linarith
  case sign => rw [neg_eq_zero, Left.sign_neg, Left.sign_neg, neg_inj]; exact h.sign

theorem nonneg (h : IsRemainder a b c) (ha : 0 ≤ a) : 0 ≤ c := by
  rcases h.sign with rfl | hsign
  · exact le_rfl
  · rw [← sign_nonneg_iff, hsign, sign_nonneg_iff]
    exact ha

theorem unique_of_nonneg (h : IsRemainder a b c) (h' : IsRemainder a b c') (ha : 0 ≤ a) :
    c = c' := by
  -- Two remainders of one sign differ by a multiple of `b` that is smaller than `b`.
  obtain ⟨k, hk⟩ := h.multiple
  obtain ⟨k', hk'⟩ := h'.multiple
  have hb : 0 < |b| := (abs_nonneg c).trans_lt h.lt
  have hmultiple : c - c' = ((k' - k : ℤ) : ℚ) * b := by
    push_cast
    linarith
  have hlt : |c - c'| < |b| :=
    abs_sub_lt_of_nonneg_of_lt (h.nonneg ha) ((le_abs_self c).trans_lt h.lt) (h'.nonneg ha)
      ((le_abs_self c').trans_lt h'.lt)
  rw [hmultiple, abs_mul, mul_lt_iff_lt_one_left hb, ← Int.cast_abs] at hlt
  have hzero : k' - k = 0 := Int.abs_lt_one_iff.mp (by exact_mod_cast hlt)
  rw [hzero, Int.cast_zero, zero_mul] at hmultiple
  exact sub_eq_zero.mp hmultiple

theorem unique (h : IsRemainder a b c) (h' : IsRemainder a b c') : c = c' := by
  rcases le_total 0 a with ha | ha
  · exact h.unique_of_nonneg h' ha
  · exact neg_inj.mp (h.neg.unique_of_nonneg h'.neg (neg_nonneg.mpr ha))

end IsRemainder

namespace Binary64

/-! ## Remainders of numbers -/

/-- The remainder of one number by another, as the standard of binary floating-point numbers says. A
zero has the sign of the dividend too. -/
inductive HasRemainder : Binary64 → Binary64 → Binary64 → Prop
  | exact {x y r : Binary64} {a b c : ℚ} (dividend : x.toRat? = some a)
      (divisor : y.toRat? = some b) (nonzero : b ≠ 0) (remainder : r.toRat? = some c)
      (is_remainder : IsRemainder a b c) (sign_bit : r.isNegative = x.isNegative) :
      HasRemainder x y r
  | whole {x : Binary64} (negative : Bool) (finite : x.isFinite = true) :
      HasRemainder x (.infinite negative) x
  | undefined {x y : Binary64}
      (outside : y.isZero = true ∨ x.isInfinite = true ∨ x = .nan ∨ y = .nan) :
      HasRemainder x y .nan

theorem tmod_signed (a b : Bool) (m n : Nat) :
    (signed a m).tmod (signed b n) = signed a (m % n) := by
  have hmod : (m : ℤ).tmod n = m % n := Int.tmod_eq_emod_of_nonneg (Int.natCast_nonneg m)
  cases a <;> cases b <;> simp [signed, Int.neg_tmod, Int.tmod_neg, hmod]

theorem signType_cast_inj : ∀ s t : SignType, (s : ℤ) = t → s = t := by
  decide

theorem sign_tmod (m n : ℤ) : m.tmod n = 0 ∨ (m.tmod n).sign = m.sign := by
  have hsign := Int.sign_tmod m n
  split at hsign
  · exact .inl (Int.sign_eq_zero_iff_zero.mp hsign)
  · exact .inr hsign

/-- The truncated remainder of integers, in units of any size. -/
theorem isRemainder_tmod {n : ℤ} (hn : n ≠ 0) (m : ℤ) {d : ℚ} (hd : 0 < d) :
    IsRemainder (m / d) (n / d) (m.tmod n / d) := by
  have hsign {k l : ℤ} (h : k.sign = l.sign) :
      SignType.sign ((k : ℚ) / d) = SignType.sign ((l : ℚ) / d) := by
    rw [Int.sign_eq_sign, Int.sign_eq_sign] at h
    simp only [div_eq_mul_inv, sign_mul, sign_intCast, signType_cast_inj _ _ h]
  constructor
  case lt =>
    have hlt : |m.tmod n| < |n| := by
      rw [Int.abs_eq_natAbs, Int.abs_eq_natAbs, Int.natAbs_tmod]
      exact_mod_cast Nat.mod_lt _ (Int.natAbs_pos.mpr hn)
    rw [abs_div, abs_div, div_lt_div_iff_of_pos_right (abs_pos.mpr hd.ne')]
    exact_mod_cast hlt
  case multiple =>
    refine ⟨m.tdiv n, ?_⟩
    have hdivision : ((m.tmod n + m.tdiv n * n : ℤ) : ℚ) = m := by rw [Int.tmod_add_tdiv_mul]
    push_cast at hdivision
    rw [← hdivision]
    ring
  case sign =>
    refine (sign_tmod m n).imp (fun hzero => ?_) hsign
    rw [hzero, Int.cast_zero, zero_div]

theorem toRat?_inj {x y : Binary64} {q : ℚ} (hx : x.toRat? = some q) (hy : y.toRat? = some q)
    (hsign : x.isNegative = y.isNegative) : x = y := by
  have hone : (one : ℚ) ≠ 0 := Nat.cast_ne_zero.mpr (Nat.ne_of_gt one_pos)
  cases x with
  | nan | infinite => cases hx
  | finite a m hm =>
    cases y with
    | nan | infinite => cases hy
    | finite b n hn =>
      obtain rfl : a = b := hsign
      have hquot := Option.some.inj (hx.trans hy.symm)
      rw [div_left_inj' hone, Int.cast_inj] at hquot
      have hunits := congrArg Int.natAbs hquot
      rw [natAbs_signed, natAbs_signed] at hunits
      subst hunits
      rfl

/-! ## The remainder that is found -/

section

variable {x y : Binary64}

theorem signed_div_one_ne_zero {negative : Bool} {units : Nat} :
    ((signed negative units : ℤ) : ℚ) / one ≠ 0 ↔ units ≠ 0 := by
  have hone : (one : ℚ) ≠ 0 := Nat.cast_ne_zero.mpr (Nat.ne_of_gt one_pos)
  rw [div_ne_zero_iff, Int.cast_ne_zero, ← Int.natAbs_ne_zero, natAbs_signed]
  exact and_iff_left hone

theorem rem_of_toRat? {a b : ℚ} (hx : x.toRat? = some a) (hy : y.toRat? = some b) (hb : b ≠ 0) :
    ∃ c, (x.rem y).toRat? = some c ∧ IsRemainder a b c ∧
      (x.rem y).isNegative = x.isNegative := by
  cases x with
  | nan | infinite => cases hx
  | finite s m hm =>
    cases y with
    | nan | infinite => cases hy
    | finite t n hn =>
      cases hx
      cases hy
      have hne : n ≠ 0 := signed_div_one_ne_zero.mp hb
      have hsigned : signed t n ≠ 0 := by
        rwa [← Int.natAbs_ne_zero, natAbs_signed]
      have hrem := isRemainder_tmod hsigned (signed s m) (Nat.cast_pos.mpr one_pos)
      rw [tmod_signed] at hrem
      rw [rem, dif_neg hne]
      exact ⟨_, rfl, hrem, rfl⟩

theorem rem_infinite (negative : Bool) (hx : x.isFinite = true) :
    x.rem (.infinite negative) = x := by
  cases x with
  | nan | infinite => cases hx
  | finite => rfl

theorem rem_undefined (h : y.isZero = true ∨ x.isInfinite = true ∨ x = .nan ∨ y = .nan) :
    x.rem y = .nan := by
  cases x with
  | nan | infinite => simp [rem]
  | finite s m hm =>
    cases y with
    | nan => rfl
    | infinite => simp [isZero, isInfinite] at h
    | finite t n hn =>
      have hzero : n = 0 := by simpa [isZero, isInfinite] using h
      rw [rem, dif_pos hzero]

theorem hasRemainder_rem (x y : Binary64) : HasRemainder x y (x.rem y) := by
  by_cases h : y.isZero = true ∨ x.isInfinite = true ∨ x = .nan ∨ y = .nan
  · rw [rem_undefined h]
    exact .undefined h
  · cases x with
    | nan | infinite => simp [isInfinite] at h
    | finite s m hm =>
      cases y with
      | nan => simp at h
      | infinite t => exact .whole t rfl
      | finite t n hn =>
        have hne : n ≠ 0 := fun hzero => h (.inl (beq_iff_eq.mpr hzero))
        have hquotient : ((signed t n : ℤ) : ℚ) / one ≠ 0 := signed_div_one_ne_zero.mpr hne
        obtain ⟨c, hc, hrem, hsign⟩ :=
          @rem_of_toRat? (.finite s m hm) (.finite t n hn) _ _ rfl rfl hquotient
        exact .exact rfl rfl hquotient hc hrem hsign

theorem HasRemainder.eq_rem {r : Binary64} (h : HasRemainder x y r) : r = x.rem y := by
  cases h with
  | exact hx hy hb hr hrem hsign =>
    obtain ⟨c, hc, hrem', hsign'⟩ := rem_of_toRat? hx hy hb
    rw [hrem.unique hrem'] at hr
    exact toRat?_inj hr hc (hsign.trans hsign'.symm)
  | whole negative hx => exact (rem_infinite negative hx).symm
  | undefined h => exact (rem_undefined h).symm

end

/-- For all numbers the remainder is the exact one, where there is one, and not-a-number elsewhere.
The partial operation is asked for it only where it does not trap. -/
theorem modulo_exact {ε : Type} (x y : Binary64) :
    ∃ r, (Operator.product .modulo).applyTo (.number x) (.number y) = .ok (.number r) ∧
      (Trapping.modulo x y : Trapping ε Binary64) = .ok r ∧
      ∀ r', HasRemainder x y r' ↔ r' = r := by
  refine ⟨x.rem y, rfl, Trapping.modulo_eq x y, fun r' => ⟨HasRemainder.eq_rem, ?_⟩⟩
  rintro rfl
  exact hasRemainder_rem x y

end Binary64

end Calculator
