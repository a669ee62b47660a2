import Calculator.Text.Blank
import Calculator.Text.DecimalDigit

/-!
# Integers entered by users

An optional sign and decimal digits of any script, single underscores between them, and blanks
around them. The information separators are no blanks here.
-/

namespace Calculator.Text

/-- More digits are refused. -/
def maxIntegerDigits : Nat :=
  4300

def isMargin (c : Char) : Bool :=
  isBlank c && !(0x1C ≤ c.toNat && c.toNat ≤ 0x1F)

def trimMargins (cs : List Char) : List Char :=
  ((cs.dropWhile isMargin).reverse.dropWhile isMargin).reverse

def separatedDigits? : List Char → Option (List Nat)
  | [] => none
  | [c] => (decimalDigit? c).map fun d => [d]
  | c :: '_' :: cs => (decimalDigit? c).bind fun d => (separatedDigits? cs).map (d :: ·)
  | c :: cs => (decimalDigit? c).bind fun d => (separatedDigits? cs).map (d :: ·)

def readMagnitude? (cs : List Char) : Option Nat :=
  ((separatedDigits? cs).filter (·.length ≤ maxIntegerDigits)).map
    (·.foldl (fun n d => n * 10 + d) 0)

def readInteger? (text : String) : Option Int :=
  match trimMargins text.toList with
  | '-' :: cs => (readMagnitude? cs).map fun n => -n
  | '+' :: cs => (readMagnitude? cs).map fun n => n
  | cs => (readMagnitude? cs).map fun n => n

end Calculator.Text
