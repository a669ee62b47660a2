import Calculator.Evaluation
import Calculator.Problem

/-!
# Calculation

A source is read and the expression evaluated, both within limits on nesting.
-/

namespace Calculator

/-- The expression that a source spells, or what is wrong with it; none when it is blank. -/
def parse (source : String) (limit : Nat := nestingLimit) : Except Problem (Option Expr) :=
  match Expr.read (some limit) source with
  | .ok e => .ok e
  | .error error => .error (.ofReadError source error)

def reduce (functions : Registry) (source : String) (e : Expr) (limit : Nat := nestingLimit) :
    Except Problem Value :=
  match e.evaluate functions (some limit) 0 with
  | .ok value => .ok value
  | .error error => .error (.ofEvalError source error)

/-- The value of a source; none when it is blank. -/
def calculate (functions : Registry) (source : String) (limits : NestingLimits := .usual) :
    Except Problem (Option Value) := do
  match ← parse source limits.reading with
  | none => .ok none
  | some e => (reduce functions source e limits.evaluation).map some

end Calculator
