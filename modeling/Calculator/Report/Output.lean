import Calculator.Builtin
import Calculator.Expr.Outline
import Calculator.Report.Diagnosis
import Calculator.Report.Trace

/-!
# Output

Everything that the calculator prints, by what it is. How it looks is decided here alone.
-/

namespace Calculator

inductive Output where
  | result (text : String)
  | tree (expr : Expr)
  /-- A problem that stops nothing, at a place. -/
  | warning (location : Option (String × Line)) (problem : Problem)
  /-- A problem that stopped the work on these lines. -/
  | report (lines : List (String × Line)) (problem : Problem)
  | usage (function : Builtin)
  | welcome
  | introduction
  | prompt
  | newLine

namespace Output

def locationText : Option (String × Line) → String
  | some (path, line) => s!"{path}:{line.number}: "
  | none => ""

def lineText : String × Line → String
  | (path, line) => s!"  File '{path}', line {line.number}:\n    {line.text}\n"

/-- An empty line is not shown, and several are announced. -/
def linesText (lines : List (String × Line)) : String :=
  let shown := lines.filter fun (_, line) => !line.text.isEmpty
  (if 1 < shown.length then "Traceback:\n" else "") ++ String.join (shown.map lineText)

def withDiagnosis (style : Style) (problem : Problem) : List Span :=
  if problem.isDiagnosed then problem.diagnosis style ++ [.plain "\n"] else []

def welcomeText : String :=
  "Welcome to the expression evaluator!\n\n" ++
  "Type an arithmetic expression such as '1 + 2 * (3 - 4) % 5' to evaluate it. \n" ++
  "Numbers may use decimals and exponents (1.5, 6.02E23) and text is written \n" ++
  "in double quotes (\"Hello\"). The following functions are built in:\n\n" ++
  String.join (Builtin.all.map fun f => s!"  {f.usage}\n")

def introductionText : String :=
  "Expression evaluator :: Python backend\n" ++
  "Built-in functions: " ++ ", ".intercalate (Builtin.all.map Builtin.name) ++ "\n" ++
  "Type 'help' for more information or 'exit' to quit.\n"

def spans : Output → List Span
  | .result text => [.plain (text ++ "\n")]
  | .tree e => [.plain (e.outline 0 ++ "\n")]
  | .warning location problem =>
    [⟨.bold, locationText location⟩, ⟨.warning, "warning: "⟩, .plain (problem.message ++ "\n")] ++
      withDiagnosis .warning problem
  | .report lines problem =>
    [.plain (linesText lines)] ++ (if problem.internal then [⟨.error, "[internal] "⟩] else []) ++
      [⟨.error, "error: "⟩, .plain (problem.message ++ "\n")] ++ withDiagnosis .error problem
  | .usage f => [.plain (f.usage ++ "\n")]
  | .welcome => [.plain welcomeText]
  | .introduction => [.plain introductionText]
  | .prompt => [.plain "> "]
  | .newLine => [.plain "\n"]

def render (color : Bool) (output : Output) : String :=
  renderSpans color output.spans

def renderAll (color : Bool) (outputs : List Output) : String :=
  String.join (outputs.map (·.render color))

end Output

end Calculator
