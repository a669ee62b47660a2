import Calculator.Builtin.Requirement
import Calculator.Nesting
import Calculator.Numeral
import Calculator.Token

/-!
# Failures of evaluation
-/

namespace Calculator

inductive EvalError where
  | signOperand (sign : Sign)
  | operands (operator : Operator) (left right : Value.Kind)
  | unknownFunction (name : String)
  | arguments (requirement : Requirement)
  /-- A value to convert is not whole. -/
  | hasDecimals (shown : String)
  | notNumeric (shown : String)
  | baseOutOfRange (base : Int)
  | notInBase (digits : String) (base : Base)
  | tooLarge (digits : String)
  | notBase64 (text : String)
  | bareNode
  | tooDeep
deriving DecidableEq

def EvalError.message : EvalError → String
  | .signOperand sign => s!"unary '{sign.symbol}' requires a number, got text"
  | .operands op left right =>
    s!"operator '{op.symbol}' requires numbers, got {left.noun} and {right.noun}"
  | .unknownFunction name => s!"unknown function: '{name}'"
  | .arguments requirement => requirement.message
  | .hasDecimals shown => s!"value conversion failed: '{shown}' contains decimals"
  | .notNumeric shown => s!"base conversion failed: '{shown}' is not a valid number"
  | .baseOutOfRange base => s!"invalid base: {base}, base must be between 2 and 36"
  | .notInBase digits base =>
    s!"value conversion failed: '{digits}' is not a valid number in base {base.value}"
  | .tooLarge digits => s!"value conversion failed: '{digits}' is too large"
  | .notBase64 text => s!"'{text}' is not valid base64 encoded text"
  | .bareNode => "cannot evaluate 'Node'"
  | .tooDeep => nestingMessage

def Requirement.check (requirement : Requirement) (arguments : List Value) :
    Except EvalError Unit :=
  if requirement.isMetBy arguments then .ok () else .error (.arguments requirement)

end Calculator
