/-!
# Faults

Failures that are not the fault of an expression. A fault has a name of its kind and a message, and
whoever reports one takes it for an internal error.
-/

namespace Calculator

inductive Fault where
  /-- A finite number has no finite neighbour at the requested precision. -/
  | roundedTooLarge
  | precisionTooBig
  | precisionUnreadable
  /-- A number cannot be rounded because no precision was given. -/
  | precisionMissing
  | noResult
  /-- A tree has too many levels to be shown. -/
  | treeTooDeep
  /-- The levels of a tree can be shown, but a number or a text on the last of them cannot. -/
  | literalTooDeep
  /-- Faults of the surroundings, with messages of their own. -/
  | value (message : String)
  | runtime (message : String)
  /-- Any other kind of fault, by its name. -/
  | other (name message : String)
deriving DecidableEq, Repr

namespace Fault

def name : Fault → String
  | .roundedTooLarge => "OverflowError"
  | .precisionTooBig | .precisionUnreadable | .value _ => "ValueError"
  | .precisionMissing => "TypeError"
  | .noResult => "IndexError"
  | .treeTooDeep | .literalTooDeep => "RecursionError"
  | .runtime _ => "RuntimeError"
  | .other name _ => name

def message : Fault → String
  | .roundedTooLarge => "rounded value too large to represent"
  | .precisionTooBig => "precision too big"
  | .precisionUnreadable => "Too many decimal digits in format string"
  | .precisionMissing => "'list' object cannot be interpreted as an integer"
  | .noResult => "pop from empty list"
  | .treeTooDeep => "maximum recursion depth exceeded"
  | .literalTooDeep => "maximum recursion depth exceeded while getting the repr of an object"
  | .value message | .runtime message | .other _ message => message

end Fault

end Calculator
