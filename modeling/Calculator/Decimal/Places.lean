import Calculator.Decimal.Notation

/-!
# Decimal places

Rounding to a number of decimal places is correct rounding of the exact value, a half going to the
even neighbour. A negative number of places rounds to a power of ten.
-/

namespace Calculator

namespace Decimal

def rounded (units : Nat) (places : Int) : Decimal :=
  ⟨Binary64.nearest (units * 10 ^ places.toNat) (Binary64.one * 10 ^ (-places).toNat), -places⟩

def fixed (units places : Nat) : List Char :=
  let digits := Numeral.digits .ten (rounded units places).digits
  let padded := zeros (places + 1 - digits.length) ++ digits
  padded.take (padded.length - places) ++ '.' :: padded.drop (padded.length - places)

/-- Drops the zeros at the end, and a point that is then last. -/
def trimZeros (cs : List Char) : List Char :=
  let trimmed := cs.reverse.dropWhile (· == '0')
  (if trimmed.head? = some '.' then trimmed.drop 1 else trimmed).reverse

end Decimal

namespace Binary64

/-- The number nearest to the number rounded to `places` decimals. From 324 places on all digits of
a number with a fraction are kept, and below -308 places none is. -/
def toPlaces (places : Int) : Binary64 → Binary64
  | .finite negative units h =>
    if 323 < places then .finite negative units h
    else if places < -308 then zero negative
    else (Decimal.rounded units places).toBinary64 negative
  | x => x

end Binary64

end Calculator
