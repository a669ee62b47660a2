import Calculator.Binary64.Arithmetic
import Calculator.Builtin
import Calculator.Expr.Reader

/-!
# Evaluation

Operands and arguments are reduced from left to right and completely before their kinds are looked
at. The name of a call is looked up before its arguments. The first failure ends the evaluation.
-/

namespace Calculator

def Sign.apply : Sign → Binary64 → Binary64
  | .plus, x => x
  | .minus, x => x.neg

def Operator.apply : Operator → Binary64 → Binary64 → Binary64
  | .sum .plus => .add
  | .sum .minus => .sub
  | .product .times => .mul
  | .product .over => .div
  | .product .modulo => .rem

def Sign.applyTo (sign : Sign) : Value → Except EvalError Value
  | .number x => .ok (.number (sign.apply x))
  | .text _ => .error (.signOperand sign)

def Operator.applyTo (op : Operator) : Value → Value → Except EvalError Value
  | .number x, .number y => .ok (.number (op.apply x y))
  | left, right => .error (.operands op left.kind right.kind)

def Registry.find (functions : Registry) (name : String) : Except EvalError Builtin :=
  match functions.lookup name with
  | some f => .ok f
  | none => .error (.unknownFunction name)

namespace Expr

mutual

/-- The value of an expression found at `depth`. The operands of an operator are one level deeper
and the arguments of a call two. -/
def evaluate (functions : Registry) (limit : Option Nat) (depth : Nat) (e : Expr) :
    Except EvalError Value :=
  if tooDeepAt limit depth then .error .tooDeep
  else
    match e with
    | .number value => .ok (.number value)
    | .text content => .ok (.text content)
    | .signed sign operand => do
      let value ← evaluate functions limit (depth + 1) operand
      sign.applyTo value
    | .binary left op right => do
      let x ← evaluate functions limit (depth + 1) left
      let y ← evaluate functions limit (depth + 1) right
      op.applyTo x y
    | .call name arguments => do
      let f ← functions.find name
      let values ← evaluateAll functions limit (depth + 2) arguments
      f.apply values
    | .bare => .error .bareNode

def evaluateAll (functions : Registry) (limit : Option Nat) (depth : Nat) :
    List Expr → Except EvalError (List Value)
  | [] => .ok []
  | e :: es => do
    let value ← evaluate functions limit depth e
    let values ← evaluateAll functions limit depth es
    .ok (value :: values)

end

end Expr

end Calculator
