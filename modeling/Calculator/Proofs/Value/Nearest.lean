import Calculator.Proofs.Decimal.Plain
import Calculator.Proofs.Value.ReadBack

/-!
# Displayed numbers are the nearest decimals

A finite number is rounded to decimal places, back to a binary number, and once more when it is
written. The text is that of the decimal nearest to the exact number all the same, in plain form
(`Value.display_nearest`).
-/

namespace Calculator

namespace Decimal

open Binary64 (one signed gap maxPlaces)

variable {units places : Nat}

theorem one_dvd_of_fine (h : maxPlaces ≤ places) : one ∣ units * 10 ^ places := by
  have hpower : one * 5 ^ maxPlaces = 10 ^ maxPlaces := by
    rw [one, maxPlaces, ← Nat.mul_pow]
  refine Nat.dvd_mul_left_of_dvd ?_ units
  calc
    one ∣ 10 ^ maxPlaces := ⟨_, hpower.symm⟩
    _ ∣ 10 ^ places := Nat.pow_dvd_pow 10 h

theorem value_rounded_min (units places : Nat) :
    (rounded units (min places maxPlaces : Nat)).value = (rounded units places).value := by
  rcases Nat.le_total places maxPlaces with h | h
  · rw [Nat.min_eq_left h]
  · rw [Nat.min_eq_right h, value_rounded_of_dvd (one_dvd_of_fine (Nat.le_refl maxPlaces)),
      value_rounded_of_dvd (one_dvd_of_fine h)]

theorem units_of_value_eq_zero {d : Decimal} (h : d.value = 0) : d.units = 0 := by
  refine units_of_digits_eq_zero ?_
  rcases mul_eq_zero.mp h with hdigits | hpower
  · exact_mod_cast hdigits
  · exact absurd hpower (by positivity)

theorem plainSigned_of_ne_zero {cs : List Char} {q : ℚ} (negative : Bool)
    (h : Plain places cs q) (hq : q ≠ 0) :
    PlainSigned places ((if negative then ['-'] else []) ++ cs) (if negative then -q else q) := by
  cases negative with
  | false => exact .unsigned h
  | true => exact .minus h hq

theorem plainSigned_toString (negative : Bool) (n : Nat) :
    PlainSigned places (toString (signed negative n)).toList
      (if negative then -(n : ℚ) else n) := by
  have hplain := plain_digits places n
  rw [Numeral.toList_toString, Numeral.write, Binary64.natAbs_signed]
  rcases Nat.eq_zero_or_pos n with rfl | hpos
  · -- The integer has lost the sign of a zero.
    have hzero : ¬signed negative 0 < 0 := by cases negative <;> decide
    have hq : (if negative then -((0 : Nat) : ℚ) else (0 : Nat)) = (0 : Nat) := by simp
    rw [if_neg hzero, hq]
    exact .unsigned hplain
  · have hsign : signed negative n < 0 ↔ negative = true := by
      cases negative <;> simp [signed, hpos]
    have hq : (n : ℚ) ≠ 0 := Nat.cast_ne_zero.mpr (Nat.ne_of_gt hpos)
    have htext := plainSigned_of_ne_zero negative hplain hq
    simp only [hsign]
    cases negative with
    | false => exact htext
    | true => exact htext

end Decimal

namespace Binary64

open Decimal (PlainSigned)

variable {units places : Nat}

theorem display_settled (negative : Bool) {h : Representable units} (hformat : places < 2 ^ 31)
    (hsettled : Precision.Settled (.places places) units h) :
    ∃ text, (finite negative units h).display (.places places) = .ok text ∧
      PlainSigned places text.toList (if negative then -(Decimal.rounded units places).value
        else (Decimal.rounded units places).value) := by
  have haccepted : Precision.Accepted (.places places) := ⟨by omega, by omega⟩
  by_cases hwhole : one ∣ units
  · refine ⟨_, display_whole haccepted negative hsettled hwhole, ?_⟩
    have hvalue : (Decimal.rounded units places).value = (units / one : Nat) := by
      rw [Decimal.value_rounded_of_dvd (Nat.dvd_mul_right_of_dvd hwhole _),
        Nat.cast_div_charZero hwhole]
    rw [hvalue]
    exact Decimal.plainSigned_toString negative (units / one)
  · refine ⟨_, display_places_fraction negative hformat hsettled hwhole, ?_⟩
    have hplain := Decimal.plain_fixed units (min places maxPlaces)
    rw [Decimal.value_rounded_min] at hplain
    rw [String.toList_ofList]
    refine Decimal.plainSigned_of_ne_zero negative (hplain.mono (Nat.min_le_left ..)) ?_
    intro hzero
    have hunits := units_rounded_of_settled hsettled
    rw [Decimal.units_of_value_eq_zero hzero] at hunits
    exact hwhole (hunits ▸ Nat.dvd_zero one)

theorem display_plain (negative : Bool) (h : Representable units) (hformat : places < 2 ^ 31) :
    ∃ text, (finite negative units h).display (.places places) = .ok text ∧
      PlainSigned places text.toList (if negative then -(Decimal.rounded units places).value
        else (Decimal.rounded units places).value) := by
  have haccepted : Precision.Accepted (.places places) := ⟨by omega, by omega⟩
  have hsettled := settled_rounded h places
  have hround : Precision.round (.places places) (finite negative units h) =
      finite negative _ (representable_rounded h places) := toPlaces_natCast negative h places
  have hdisplay := display_settled negative hformat hsettled
  rw [Decimal.rounded_units_rounded h.2 places] at hdisplay
  rwa [display_of_round haccepted hround hsettled]

end Binary64

/-- A finite number is displayed as the decimal nearest to it, however often it is rounded on the
way, and the text has no digit, sign or point that could be left out. -/
theorem Value.display_nearest {x : Binary64} {q : ℚ} {places : Nat} (hvalue : x.toRat? = some q)
    (hformat : places < 2 ^ 31) :
    ∃ text k, (Value.number x).display (.places places) = .ok text ∧
      (∀ j, Decimal.IsNearest places q j ↔ j = k) ∧
      Decimal.PlainSigned places text.toList (k / 10 ^ places) := by
  cases x with
  | nan | infinite => cases hvalue
  | finite negative units h =>
    cases hvalue
    obtain ⟨text, hdisplay, hplain⟩ := Binary64.display_plain negative h hformat
    have hnearest := Decimal.isNearest_rounded negative units places
    refine ⟨text, _, hdisplay, fun j => ⟨fun hj => hj.unique hnearest, ?_⟩, ?_⟩
    · rintro rfl
      exact hnearest
    · rwa [Decimal.cast_signed_digits negative (Decimal.exponent_rounded units places)]

/-- An eighth is half a step from either neighbour, and goes to the even one. -/
theorem Value.display_nearest_tie :
    let x := Decimal.toBinary64 true ⟨125, -3⟩
    x.toRat? = some (-1 / 8) ∧ 2 < 2 ^ 31 ∧ Decimal.IsNearest 2 (-1 / 8) (-12) ∧
      (Value.number x).display (.places (2 : Nat)) = .ok "-0.12" ∧
      Decimal.PlainSigned 2 "-0.12".toList ((-12 : ℤ) / 10 ^ 2) := by
  intro x
  have hvalue : x.toRat? = some (-1 / 8) := by decide +kernel
  have hformat : 2 < 2 ^ 31 := by decide
  have hnearest : Decimal.IsNearest 2 (-1 / 8) (-12) := by
    constructor
    · norm_num
    · exact fun _ => by decide
  have htext : (Value.number x).display (.places (2 : Nat)) = .ok "-0.12" :=
    Reader.eq_ok_of_toOption (by decide +kernel)
  obtain ⟨text, k, hdisplay, hk, hplain⟩ := Value.display_nearest hvalue hformat
  obtain rfl : text = "-0.12" := by
    rw [htext] at hdisplay
    exact (Except.ok.inj hdisplay).symm
  obtain rfl : -12 = k := (hk (-12)).mp hnearest
  exact ⟨hvalue, hformat, hnearest, htext, hplain⟩

end Calculator
