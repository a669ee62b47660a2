import Calculator.Builtin.EvalError
import Calculator.Expr.Reader

/-!
# Problems

A problem is an error or a warning in the form in which it is reported: a message, and the part of a
source that it is about. It can be shown with a diagnosis of that part, unless it is internal.
-/

namespace Calculator

inductive Stage where
  | general
  | lexing
  | parsing
  | evaluation
deriving DecidableEq, Repr

structure Problem where
  stage : Stage
  message : String
  source : String
  start : Int
  stop : Int
  diagnosed : Bool
  internal : Bool
deriving DecidableEq, Repr

namespace Problem

/-- The end of a span in `source`, where -1 stands for the end of the source. -/
def spanEnd (source : String) (stop : Int) : Int :=
  if stop = -1 then source.length else stop

def unlocated (stage : Stage) (message : String) : Problem :=
  ⟨stage, message, "", 0, 0, false, false⟩

def noInput : Problem :=
  unlocated .general "no input provided"

def notOpened (path : String) : Problem :=
  unlocated .general s!"'{path}' could not be opened"

def interrupted : Problem :=
  { unlocated .general "keyboard interrupt" with diagnosed := true }

def ofLexError (source : String) (error : LexError) : Problem :=
  ⟨.lexing, error.message, source, error.start, error.stop source.length, true, false⟩

def ofParseError (source : String) (error : ParseError) : Problem :=
  ⟨.parsing, error.message, source, error.start, error.stop source.length, true, false⟩

def ofReadError (source : String) : ReadError → Problem
  | .lexical error => ofLexError source error
  | .grammatical error => ofParseError source error

/-- Only the nesting of an expression is shown in its source. -/
def ofEvalError (source : String) : EvalError → Problem
  | .tooDeep =>
    ⟨.evaluation, EvalError.tooDeep.message, source, 0, source.length, true, false⟩
  | .bareNode =>
    { unlocated .evaluation EvalError.bareNode.message with diagnosed := true, internal := true }
  | error => unlocated .evaluation error.message

end Problem

end Calculator
