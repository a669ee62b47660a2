import Calculator.Decimal.Places
import Calculator.Fault
import Calculator.Value

/-!
# Displayed values

Texts are displayed as they are. A whole number has no point. Any other finite number is rounded to
the precision and shows no zero at its end, or has its shortest digits.
-/

namespace Calculator

/-- How a finite number is rounded before it is displayed. -/
inductive Precision where
  /-- Not at all. -/
  | shortest
  /-- To a number of decimal places. -/
  | places (count : Int)
  /-- To a number of places that was left out, so that no number can be displayed. -/
  | missing
deriving DecidableEq, Repr

namespace Binary64

/-- No number has more decimal places. -/
def maxPlaces : Nat :=
  places

def displayFraction (count : Int) (negative : Bool) (units : Nat) : Except Fault String :=
  if (2 ^ 63 : Nat) ≤ count then .error .precisionUnreadable
  else if (2 ^ 31 : Nat) ≤ count then .error .precisionTooBig
  else
    let text := Decimal.trimZeros (Decimal.fixed units (min count.toNat maxPlaces))
    .ok (String.ofList (if negative then '-' :: text else text))

def displayRounded (count : Int) : Binary64 → Except Fault String
  | .finite negative units h =>
    match (Binary64.finite negative units h).toInt? with
    | some n => .ok (toString n)
    | none => displayFraction count negative units
  | _ => .error .roundedTooLarge

def display (precision : Precision) : Binary64 → Except Fault String
  | .finite negative units h =>
    let x := Binary64.finite negative units h
    match precision with
    | .shortest => .ok (x.toInt?.elim x.text toString)
    | .places count => displayRounded count (x.toPlaces count)
    | .missing => .error .precisionMissing
  | x => .ok x.text

end Binary64

def Value.display (precision : Precision) : Value → Except Fault String
  | .number x => x.display precision
  | .text content => .ok content

end Calculator
