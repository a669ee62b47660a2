import Calculator.Decimal.Basic
import Calculator.Numeral

/-!
# Shortest decimals

The decimal of fewest digits that reads back as a given magnitude; of those the nearest, and of two
as near the one that ends in an even digit.
-/

namespace Calculator.Decimal

/-- The number of digits before the point, negative when zeros follow it. No magnitude but zero is
below 10^-324. -/
def magnitude (units : Nat) : Int :=
  (Numeral.digits .ten (units * 10 ^ 324 / Binary64.one)).length - 324

/-- The same magnitude as a decimal: a power of two divides the same power of ten. -/
def exact (units : Nat) : Decimal :=
  ⟨units * 5 ^ Binary64.places, -Binary64.places⟩

/-- The decimal on the grid of `10 ^ exponent` that reads back as `units`, if there is one: one of the
two grid points around the magnitude, and the nearer if both do. -/
def onGrid? (units : Nat) (exponent : Int) : Option Decimal :=
  let num := units * 10 ^ (-exponent).toNat
  let den := Binary64.one * 10 ^ exponent.toNat
  let points : List Decimal :=
    [⟨Binary64.nearest num den, exponent⟩, ⟨num / den, exponent⟩, ⟨num / den + 1, exponent⟩]
  points.find? (·.units = units)

def trimPower (count : Nat) (d : Decimal) : Decimal :=
  if d.digits = 10 ^ count then ⟨1, d.exponent + count⟩ else d

def withDigits? (units count : Nat) : Option Decimal :=
  (onGrid? units (magnitude units - count)).map (trimPower count)

/-- Seventeen digits are enough to tell any two numbers apart. -/
def shortest (units : Nat) : Decimal :=
  ((List.range' 1 17).findSome? (withDigits? units)).getD (exact units)

end Calculator.Decimal
