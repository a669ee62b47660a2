import Calculator.Decimal.Shortest

/-!
# Written numbers

A number is written with its shortest digits: positionally from 10^-4 up to 10^16, with at least one
digit on each side of the point, and otherwise with an exponent of a sign and at least two digits.
-/

namespace Calculator

namespace Decimal

def zeros (n : Nat) : List Char :=
  List.replicate n '0'

def positional (digits : List Char) (whole : Int) : List Char :=
  if whole ≤ 0 then '0' :: '.' :: zeros (-whole).toNat ++ digits
  else if digits.length ≤ whole then digits ++ zeros (whole.toNat - digits.length) ++ ['.', '0']
  else digits.take whole.toNat ++ '.' :: digits.drop whole.toNat

def exponentText (exponent : Int) : List Char :=
  let digits := Numeral.digits .ten exponent.natAbs
  'e' :: (if exponent < 0 then '-' else '+') :: zeros (2 - digits.length) ++ digits

def scientific (digits : List Char) (exponent : Int) : List Char :=
  digits.take 1 ++ (if 1 < digits.length then '.' :: digits.drop 1 else []) ++
    exponentText exponent

def write (d : Decimal) : List Char :=
  let digits := Numeral.digits .ten d.digits
  let whole := digits.length + d.exponent
  if -4 < whole ∧ whole ≤ 16 then positional digits whole else scientific digits (whole - 1)

end Decimal

namespace Binary64

def writeMagnitude (units : Nat) : List Char :=
  if units = 0 then ['0', '.', '0'] else (Decimal.shortest units).write

def write : Binary64 → List Char
  | .nan => ['n', 'a', 'n']
  | .infinite negative => (if negative then ['-'] else []) ++ ['i', 'n', 'f']
  | .finite negative units _ => (if negative then ['-'] else []) ++ writeMagnitude units

def text (x : Binary64) : String :=
  String.ofList x.write

end Binary64

end Calculator
