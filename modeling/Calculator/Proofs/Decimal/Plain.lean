import Mathlib.Algebra.Order.Field.Basic
import Mathlib.Data.Nat.Cast.Field
import Mathlib.Tactic.Linarith
import Mathlib.Tactic.Positivity
import Calculator.Proofs.Decimal.Places

/-!
# Plain decimal texts

A rounded decimal is written without an exponent, and without a zero that could be left out on either
side of the point (`plain_fixed`). Which decimal a number is rounded to is said by `IsNearest`, and
there is only one.
-/

namespace Calculator.Decimal

open Binary64 (one nearest signed)

/-! ## The text -/

/-- A magnitude with at most `places` digits behind the point. -/
inductive Plain (places : Nat) : List Char → ℚ → Prop
  | whole {whole : List Char} (nonempty : whole ≠ []) (digits : whole.all isDigit = true)
      (trimmed : Numeral.Trimmed whole) : Plain places whole (ofDigits whole)
  | pointed {whole fraction : List Char} (nonempty : whole ≠ [])
      (digits : (whole ++ fraction).all isDigit = true) (trimmed : Numeral.Trimmed whole)
      (behind : fraction ≠ []) (last : fraction.getLast? ≠ some '0')
      (short : fraction.length ≤ places) :
      Plain places (whole ++ '.' :: fraction) (ofDigits (whole ++ fraction) / 10 ^ fraction.length)

/-- A minus sign stands in front of what is below zero and of nothing else. -/
inductive PlainSigned (places : Nat) : List Char → ℚ → Prop
  | unsigned {cs : List Char} {q : ℚ} (magnitude : Plain places cs q) : PlainSigned places cs q
  | minus {cs : List Char} {q : ℚ} (magnitude : Plain places cs q) (nonzero : q ≠ 0) :
      PlainSigned places ('-' :: cs) (-q)

theorem plain_digits (places n : Nat) : Plain places (Numeral.digits .ten n) n := by
  obtain ⟨hdigits, hvalue⟩ := digits_ten n
  have h := @Plain.whole places _ (digits_ne_nil .ten n) hdigits (Numeral.trimmed_digits .ten n)
  rwa [hvalue] at h

theorem Plain.mono {places places' : Nat} {cs : List Char} {q : ℚ} (h : Plain places cs q)
    (hle : places ≤ places') : Plain places' cs q := by
  cases h with
  | whole hne hdigits htrimmed => exact .whole hne hdigits htrimmed
  | pointed hne hdigits htrimmed hbehind hlast hshort =>
    exact .pointed hne hdigits htrimmed hbehind hlast (Nat.le_trans hshort hle)

theorem value_neg (n places : Nat) : value ⟨n, -(places : Int)⟩ = n / 10 ^ places := by
  rw [value, zpow_neg, zpow_natCast, ← div_eq_mul_inv]

theorem plain_fixed (units places : Nat) :
    Plain places (trimZeros (fixed units places)) (rounded units places).value := by
  obtain ⟨whole, fraction, hfixed, hne, hwhole, htrimmed, hfraction, hrounded⟩ :=
    exists_fixed units places
  obtain ⟨kept, k, rfl, hlast, htrim⟩ := exists_trimZeros whole hfraction
  have hlength : (kept ++ zeros k).length = places := by
    have hexponent := congrArg Decimal.exponent hrounded
    rw [rounded_natCast] at hexponent
    simp only at hexponent
    omega
  rw [hfixed, htrim, hrounded, value_append_zeros, value_neg]
  split
  · next hnil =>
    subst hnil
    simpa using @Plain.whole places _ hne hwhole htrimmed
  · next hkept =>
    refine .pointed hne ?_ htrimmed hkept hlast ?_
    · rw [List.all_append, Bool.and_eq_true] at hfraction
      exact all_isDigit_append hwhole hfraction.1
    · rw [List.length_append] at hlength
      omega

/-! ## The decimal -/

/-- Of the decimals with `places` places the one of `k` times the last place is the nearest to a
number, and of two as near the one that ends in an even digit. -/
structure IsNearest (places : Nat) (q : ℚ) (k : ℤ) : Prop where
  close : 2 * |q * 10 ^ places - k| ≤ 1
  even : 2 * |q * 10 ^ places - k| = 1 → Even k

theorem IsNearest.le {places : Nat} {q : ℚ} {j k : ℤ} (hj : IsNearest places q j)
    (hk : IsNearest places q k) : k ≤ j := by
  by_contra hlt
  rw [Int.not_le] at hlt
  have hstep : (j : ℚ) + 1 ≤ k := by exact_mod_cast hlt
  obtain ⟨hlow, hhigh⟩ := abs_le.mp (show |q * 10 ^ places - j| ≤ 1 / 2 by linarith [hj.close])
  obtain ⟨hlow', hhigh'⟩ := abs_le.mp (show |q * 10 ^ places - k| ≤ 1 / 2 by linarith [hk.close])
  have hj' : q * 10 ^ places - j = 1 / 2 := by linarith
  have hk' : q * 10 ^ places - k = -(1 / 2) := by linarith
  have hnext : (k : ℚ) = (j + 1 : ℤ) := by
    push_cast
    linarith
  have heven : Even j := hj.even (by rw [hj']; norm_num)
  have heven' : Even k := hk.even (by rw [hk']; norm_num)
  rw [Int.cast_inj.mp hnext] at heven'
  exact Int.not_even_iff_odd.mpr heven.add_one heven'

theorem IsNearest.unique {places : Nat} {q : ℚ} {j k : ℤ} (hj : IsNearest places q j)
    (hk : IsNearest places q k) : j = k :=
  le_antisymm (hk.le hj) (hj.le hk)

theorem cast_dist (m n : Nat) : ((m.dist n : Nat) : ℚ) = |(m : ℚ) - n| := by
  rcases Nat.le_total m n with h | h
  · rw [Nat.dist_eq_sub_of_le h, Nat.cast_sub h, abs_sub_comm, abs_of_nonneg]
    exact sub_nonneg.mpr (Nat.cast_le.mpr h)
  · rw [Nat.dist_eq_sub_of_le_right h, Nat.cast_sub h, abs_of_nonneg]
    exact sub_nonneg.mpr (Nat.cast_le.mpr h)

theorem cast_signed (negative : Bool) (n : Nat) :
    ((signed negative n : ℤ) : ℚ) = if negative then -(n : ℚ) else n := by
  cases negative <;> simp [signed]

theorem exponent_rounded (units places : Nat) :
    (rounded units places).exponent = -(places : Int) := by
  rw [rounded_natCast]

theorem cast_signed_digits (negative : Bool) {d : Decimal} {places : Nat}
    (h : d.exponent = -(places : Int)) :
    ((signed negative d.digits : ℤ) : ℚ) / 10 ^ places =
      if negative then -d.value else d.value := by
  have hvalue : d.value = d.digits / 10 ^ places := by
    rw [← value_neg, ← h]
  rw [cast_signed, hvalue]
  cases negative with
  | false => rfl
  | true => exact neg_div ..

theorem abs_signed_sub {den : Nat} (hden : 0 < den) (negative : Bool) (m n places : Nat) :
    |((signed negative m : ℤ) / den : ℚ) * 10 ^ places - (signed negative n : ℤ)| =
      ((n * den).dist (m * 10 ^ places) : Nat) / den := by
  have hpos : (0 : ℚ) < den := Nat.cast_pos.mpr hden
  have hmagnitude : |(m / den : ℚ) * 10 ^ places - n| * den =
      |((n * den : Nat) : ℚ) - (m * 10 ^ places : Nat)| := by
    rw [← abs_of_pos hpos, ← abs_mul, abs_of_pos hpos, abs_sub_comm ((n * den : Nat) : ℚ)]
    congr 1
    push_cast
    field_simp
  rw [cast_dist, eq_div_iff hpos.ne', ← hmagnitude, cast_signed, cast_signed]
  congr 1
  cases negative with
  | false => rfl
  | true =>
    rw [if_pos rfl, if_pos rfl, ← abs_neg]
    congr 1
    ring

/-- Rounding finds the nearest decimal. -/
theorem isNearest_rounded (negative : Bool) (units places : Nat) :
    IsNearest places ((signed negative units : ℤ) / one)
      (signed negative (rounded units places).digits) := by
  rw [rounded_natCast]
  obtain ⟨hclose, heven⟩ :=
    Binary64.two_mul_dist_nearest_le Binary64.one_pos (units * 10 ^ places)
  generalize nearest (units * 10 ^ places) one = n at *
  have hdist := abs_signed_sub Binary64.one_pos negative units n places
  generalize (n * one).dist (units * 10 ^ places) = d at *
  have hpos : (0 : ℚ) < one := Nat.cast_pos.mpr Binary64.one_pos
  constructor
  · rw [hdist, ← mul_div_assoc, div_le_one hpos]
    exact_mod_cast hclose
  · rw [hdist, ← mul_div_assoc, div_eq_one_iff_eq hpos.ne']
    intro htie
    have hn : Even (n : ℤ) :=
      (Int.even_coe_nat n).mpr (Nat.even_iff.mpr (heven (by exact_mod_cast htie)))
    cases negative with
    | false => exact hn
    | true => exact hn.neg

theorem value_rounded_of_dvd {units places : Nat} (h : one ∣ units * 10 ^ places) :
    (rounded units places).value = units / one := by
  rw [rounded_natCast, value_neg, Binary64.nearest_of_dvd h]
  generalize one = den at *
  rw [Nat.cast_div_charZero h]
  push_cast
  field_simp

end Calculator.Decimal
