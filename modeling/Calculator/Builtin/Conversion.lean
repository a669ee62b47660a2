import Calculator.Builtin.EvalError
import Calculator.Decimal.Literal
import Calculator.Decimal.Notation

/-!
# Conversion between bases

A value is taken as digits, read in one base and written in another. The result is a number in base
ten and a text in any other.
-/

namespace Calculator.Conversion

/-- The digits of a value, which may have a point only if nothing but zeros follows it. -/
def digitsOf : Value → Except EvalError String
  | .number x =>
    match x.toInt? with
    | some n => .ok (toString n)
    | none => .error (.hasDecimals x.text)
  | .text text =>
    let decimals := (text.toList.dropWhile (· != '.')).drop 1
    if decimals.all (· == '0') then .ok (String.ofList (text.toList.takeWhile (· != '.')))
    else .error (.hasDecimals text)

def wholePart? : Value → Option Int
  | .number x => x.truncate?
  | .text text => (Binary64.read? text.toList).bind (·.truncate?)

def shown : Value → String
  | .number x => x.text
  | .text text => text

def baseOf (value : Value) : Except EvalError Base :=
  match wholePart? value with
  | none => .error (.notNumeric (shown value))
  | some n =>
    match Base.ofInt? n with
    | some base => .ok base
    | none => .error (.baseOutOfRange n)

def toDecimal (digits : String) (base : Base) : Except EvalError Int :=
  match Numeral.read? base digits.toList with
  | some n => .ok n
  | none => .error (.notInBase digits base)

def fromDecimal (n : Int) (base : Base) : String :=
  String.ofList (Numeral.write base n)

def express (digits : String) (n : Int) (target : Base) : Except EvalError Value :=
  if target = .ten then
    if (Binary64.ofInt n).isFinite then .ok (.number (Binary64.ofInt n))
    else .error (.tooLarge digits)
  else .ok (.text (fromDecimal n target))

/-- Errors are looked for in the value first, then in either base, and then in the digits. -/
def convert (value source target : Value) : Except EvalError Value := do
  let digits ← digitsOf value
  let source ← baseOf source
  let target ← baseOf target
  let n ← toDecimal digits source
  express digits n target

end Calculator.Conversion
