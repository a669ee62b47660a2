import Calculator.Decimal.Basic

/-!
# Decimal literals

ASCII digits with at most one point, of which at least one is a digit, and an optional exponent. The
grammar of unsigned literals is shared by the language's numbers and by numbers written as text.
-/

namespace Calculator.Decimal

def isDigit (c : Char) : Bool :=
  '0' ≤ c && c ≤ '9'

def ofDigits (cs : List Char) : Nat :=
  cs.foldl (fun n c => n * 10 + (c.toNat - 0x30)) 0

def readDigits? (cs : List Char) : Option Nat :=
  if cs.isEmpty || !cs.all isDigit then none else some (ofDigits cs)

def readSigned? : List Char → Option Int
  | '-' :: cs => (readDigits? cs).map fun n => -n
  | '+' :: cs => (readDigits? cs).map fun n => n
  | cs => (readDigits? cs).map fun n => n

/-- What follows the significant digits: nothing, or a marker and an integer. -/
def readExponent? : List Char → Option Int
  | [] => some 0
  | c :: cs => if c = 'e' ∨ c = 'E' then readSigned? cs else none

def splitFraction : List Char → List Char × List Char
  | '.' :: cs => (cs.takeWhile isDigit, cs.dropWhile isDigit)
  | cs => ([], cs)

def read? (cs : List Char) : Option Decimal :=
  let whole := cs.takeWhile isDigit
  let (fraction, rest) := splitFraction (cs.dropWhile isDigit)
  if whole.isEmpty && fraction.isEmpty then none
  else (readExponent? rest).map fun exponent =>
    ⟨ofDigits (whole ++ fraction), exponent - fraction.length⟩

end Calculator.Decimal

namespace Calculator

/-- A literal with an optional sign. -/
def Binary64.read? : List Char → Option Binary64
  | '-' :: cs => (Decimal.read? cs).map (·.toBinary64 true)
  | '+' :: cs => (Decimal.read? cs).map (·.toBinary64 false)
  | cs => (Decimal.read? cs).map (·.toBinary64 false)

end Calculator
