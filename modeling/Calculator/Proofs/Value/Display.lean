import Calculator.Proofs.Decimal.Value
import Calculator.Value.Display

/-!
# Every value can be displayed

Rounding to decimal places keeps a finite number finite: a whole number is its own rounding, and any
other number is far below the limit (`Binary64.toPlaces_finite`). So with a number of places that can
be written out, every value has a text (`Value.display_places`). Any other number of places accounts for
the fault that it causes (`OutOfRange`).
-/

namespace Calculator

namespace Decimal

open Binary64 (one gap)

theorem units_rounded (units count : Nat) : (rounded units count).units =
    Binary64.roundUnits (Binary64.nearest (units * 10 ^ count) one * one) (10 ^ count) := by
  simp [Decimal.units, rounded]

theorem units_rounded_of_dvd {units : Nat} (hgap : gap units ∣ units) (h : one ∣ units)
    (count : Nat) : (rounded units count).units = units := by
  have hdvd : one ∣ units * 10 ^ count := Nat.dvd_mul_right_of_dvd h _
  have hcross : units * 10 ^ count * 1 = units * 10 ^ count := Nat.mul_one _
  calc
    (rounded units count).units
        = Binary64.roundUnits (units * 10 ^ count) (10 ^ count) := by
          rw [units_rounded, Binary64.nearest_of_dvd hdvd, Nat.div_mul_cancel hdvd]
    _ = Binary64.roundUnits units 1 :=
          Binary64.roundUnits_eq_of_cross hcross (Nat.pow_pos (by decide)) Nat.one_pos
    _ = units := Binary64.roundUnits_of_gap_dvd hgap

theorem units_rounded_le (units count : Nat) :
    (rounded units count).units ≤ 2 * (units + one) + 1 := by
  have hpow : 0 < 10 ^ count := Nat.pow_pos (by decide)
  have hnearest : Binary64.nearest (units * 10 ^ count) one * one ≤ units * 10 ^ count + one :=
    calc
      Binary64.nearest (units * 10 ^ count) one * one
          ≤ (units * 10 ^ count / one + 1) * one :=
            Nat.mul_le_mul_right _ (Binary64.nearest_le ..)
      _ = units * 10 ^ count / one * one + one := by rw [Nat.add_mul, Nat.one_mul]
      _ ≤ units * 10 ^ count + one := Nat.add_le_add_right (Nat.div_mul_le_self ..) _
  have hquotient : Binary64.nearest (units * 10 ^ count) one * one / 10 ^ count ≤ units + one :=
    calc
      Binary64.nearest (units * 10 ^ count) one * one / 10 ^ count
          ≤ (units * 10 ^ count + one) / 10 ^ count := Nat.div_le_div_right hnearest
      _ = units + one / 10 ^ count := by
            rw [Nat.add_comm, Nat.add_mul_div_right _ _ hpow, Nat.add_comm]
      _ ≤ units + one := Nat.add_le_add_left (Nat.div_le_self ..) _
  have hround := Binary64.roundUnits_le
    (Binary64.nearest (units * 10 ^ count) one * one) (10 ^ count)
  rw [units_rounded]
  omega

end Decimal

/-- Numbers of places that some numbers cannot be displayed with, and the faults that tell so. -/
inductive OutOfRange (count : Int) : Fault → Prop
  | negative : count < 0 → OutOfRange count .roundedTooLarge
  | big : 2 ^ 31 ≤ count → OutOfRange count .precisionTooBig
  | unreadable : 2 ^ 63 ≤ count → OutOfRange count .precisionUnreadable

namespace Binary64

theorem lt_of_not_dvd {units : Nat} (hgap : gap units ∣ units) (h : ¬one ∣ units) :
    units < 2 ^ (52 + places) := by
  refine Nat.lt_of_not_le fun hle => h ?_
  have hne : units ≠ 0 := Nat.ne_of_gt (Nat.lt_of_lt_of_le (Nat.two_pow_pos _) hle)
  have hlog : 52 + places ≤ units.log2 := (Nat.le_log2 hne).mpr hle
  calc
    one ∣ gap units := Nat.pow_dvd_pow 2 (by omega)
    _ ∣ units := hgap

theorem units_rounded_lt {units : Nat} (h : Representable units) (count : Nat) :
    (Decimal.rounded units count).units < limit := by
  by_cases hone : one ∣ units
  · rw [Decimal.units_rounded_of_dvd h.2 hone]
    exact h.1
  · calc
      (Decimal.rounded units count).units ≤ 2 * (units + one) + 1 := Decimal.units_rounded_le ..
      _ ≤ 2 * (2 ^ (52 + places) + one) + 1 := by have := lt_of_not_dvd h.2 hone; omega
      _ < limit := by decide +kernel

theorem toPlaces_finite {count : Int} (hcount : 0 ≤ count) (negative : Bool) {units : Nat}
    (h : Representable units) :
    ∃ units' h', (finite negative units h).toPlaces count = finite negative units' h' := by
  rw [toPlaces]
  split
  · exact ⟨units, h, rfl⟩
  · rw [if_neg (by omega)]
    obtain ⟨n, rfl⟩ := Int.eq_ofNat_of_zero_le hcount
    have hrounded : Representable (Decimal.rounded units n).units :=
      ⟨units_rounded_lt h n, Decimal.gap_dvd_units _⟩
    exact ⟨_, hrounded, Decimal.toBinary64_of_units negative rfl hrounded⟩

theorem display_places {count : Int} (hcount : 0 ≤ count) (hformat : count < 2 ^ 31)
    (x : Binary64) : ∃ text, x.display (.places count) = .ok text := by
  cases x with
  | nan => exact ⟨_, rfl⟩
  | infinite negative => exact ⟨_, rfl⟩
  | finite negative units h =>
    obtain ⟨units', h', hrounded⟩ := toPlaces_finite hcount negative h
    simp only [display, hrounded, displayRounded]
    cases (finite negative units' h').toInt? with
    | some n => exact ⟨_, rfl⟩
    | none =>
      have hreadable : ¬((2 ^ 63 : Nat) : Int) ≤ count := by omega
      have hfits : ¬((2 ^ 31 : Nat) : Int) ≤ count := by omega
      exact ⟨_, by rw [displayFraction, if_neg hreadable, if_neg hfits]⟩

/-! ## Numbers that cannot be displayed -/

theorem displayFraction_eq_error {count : Int} {negative : Bool} {units : Nat} {fault : Fault}
    (h : displayFraction count negative units = .error fault) : OutOfRange count fault := by
  unfold displayFraction at h
  split at h
  · next hcount =>
    cases h
    exact .unreadable hcount
  · split at h
    · next hcount =>
      cases h
      exact .big hcount
    · cases h

theorem display_eq_error {count : Int} {x : Binary64} {fault : Fault}
    (h : x.display (.places count) = .error fault) : OutOfRange count fault := by
  cases x with
  | nan | infinite => cases h
  | finite negative units hunits =>
    rw [display] at h
    cases hrounded : (finite negative units hunits).toPlaces count with
    | finite negative' units' hunits' =>
      simp only [hrounded, displayRounded] at h
      split at h
      · cases h
      · exact displayFraction_eq_error h
    | nan | infinite =>
      simp only [hrounded, displayRounded, Except.error.injEq] at h
      subst h
      refine .negative (Int.lt_of_not_ge fun hcount => ?_)
      obtain ⟨units', hunits', hfinite⟩ := toPlaces_finite hcount negative hunits
      rw [hfinite] at hrounded
      cases hrounded

end Binary64

theorem Value.display_eq_error {count : Int} {value : Value} {fault : Fault}
    (h : value.display (.places count) = .error fault) : OutOfRange count fault := by
  cases value with
  | number x => exact Binary64.display_eq_error h
  | text content => cases h

/-- A precision from zero on that a number can be written with shows every value. -/
theorem Value.display_places {count : Int} (hcount : 0 ≤ count) (hformat : count < 2 ^ 31)
    (value : Value) : ∃ text, value.display (.places count) = .ok text := by
  cases value with
  | number x => exact x.display_places hcount hformat
  | text content => exact ⟨content, rfl⟩

end Calculator
