import Calculator.Binary64.Basic

/-!
# Values

A value is a number or a text.
-/

namespace Calculator

inductive Value where
  | number (number : Binary64)
  | text (text : String)
deriving DecidableEq

namespace Value

inductive Kind where
  | number
  | text
deriving DecidableEq, Repr

def kind : Value → Kind
  | .number _ => .number
  | .text _ => .text

def Kind.noun : Kind → String
  | .number => "number"
  | .text => "text"

def Kind.adjective : Kind → String
  | .number => "numeric"
  | .text => "text"

end Value

end Calculator
