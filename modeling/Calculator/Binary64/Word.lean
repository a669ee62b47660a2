import Calculator.Binary64.Basic

/-!
# The 64-bit word of a number

The interchange format: a sign bit, eleven bits of exponent, 52 bits of fraction. Only functions
that the machine computes need it.
-/

namespace Calculator.Binary64

private def signBit (negative : Bool) : Nat :=
  if negative then 2 ^ 63 else 0

/-- The exponent field counts gaps, and the leading bit of a significand adds the one that
distinguishes normal numbers. -/
def toWord : Binary64 → Nat
  | .nan => 0x7FF8 * 2 ^ 48
  | .infinite negative => signBit negative + 0x7FF * 2 ^ 52
  | .finite negative units _ =>
    signBit negative + (units.log2 - 52) * 2 ^ 52 + units / gap units

def ofWord (word : Nat) : Binary64 :=
  let negative := word / 2 ^ 63 % 2 == 1
  let exponent := word / 2 ^ 52 % 2 ^ 11
  let fraction := word % 2 ^ 52
  have hfraction : fraction < 2 ^ 52 := Nat.mod_lt _ (Nat.two_pow_pos 52)
  if exponent = 0x7FF then if fraction = 0 then .infinite negative else .nan
  else if exponent = 0 then
    ofUnits negative (fraction * 2 ^ 0) (gap_dvd_of_lt (by omega) 0)
  else
    ofUnits negative ((2 ^ 52 + fraction) * 2 ^ (exponent - 1)) (gap_dvd_of_lt (by omega) _)

end Calculator.Binary64
