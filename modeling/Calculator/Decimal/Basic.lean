import Calculator.Binary64.Basic

/-!
# Decimal numbers

A decimal number is a natural number of digits times a power of ten. Its nearest binary number is
found by exact arithmetic and one rounding.
-/

namespace Calculator

/-- The number `digits * 10 ^ exponent`. -/
structure Decimal where
  digits : Nat
  exponent : Int
deriving DecidableEq, Repr

namespace Decimal

def units (d : Decimal) : Nat :=
  Binary64.roundUnits (d.digits * 10 ^ d.exponent.toNat * Binary64.one) (10 ^ (-d.exponent).toNat)

theorem gap_dvd_units (d : Decimal) : Binary64.gap d.units ∣ d.units :=
  Binary64.gap_dvd_roundUnits ..

/-- A decimal beyond all magnitudes is infinite and one below half the smallest is zero: the first
two cases decide this by the exponent, so that no power of an extreme exponent is computed. -/
def toBinary64 (negative : Bool) (d : Decimal) : Binary64 :=
  if d.digits = 0 ∨ d.exponent + d.digits.log2 + 325 ≤ 0 then .zero negative
  else if 309 ≤ d.exponent then .infinite negative
  else .ofUnits negative d.units d.gap_dvd_units

end Decimal

end Calculator
