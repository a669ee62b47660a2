import Calculator.Binary64.Basic

/-!
# Tokens

What a source consists of besides blanks. Operators come in two tiers; those of the first are also
the signs of numbers.
-/

namespace Calculator

inductive Sign where
  | plus
  | minus
deriving DecidableEq, Repr

inductive Scaling where
  | times
  | over
  | modulo
deriving DecidableEq, Repr

inductive Operator where
  | sum (sign : Sign)
  | product (scaling : Scaling)
deriving DecidableEq, Repr

def Sign.symbol : Sign → Char
  | .plus => '+'
  | .minus => '-'

def Scaling.symbol : Scaling → Char
  | .times => '*'
  | .over => '/'
  | .modulo => '%'

def Operator.symbol : Operator → Char
  | .sum sign => sign.symbol
  | .product scaling => scaling.symbol

/-- A token without its place. A number has the value that its literal spells, a text is what stands
between its quotes, and a name is in lower case. -/
inductive Lexeme where
  | operator (operator : Operator)
  | openParen
  | closeParen
  | comma
  | number (literal : String) (value : Binary64)
  | text (content : String)
  | name (lowered : String)
deriving DecidableEq

def Lexeme.shown : Lexeme → String
  | .operator op => op.symbol.toString
  | .openParen => "("
  | .closeParen => ")"
  | .comma => ","
  | .number literal _ => literal
  | .text content => content
  | .name lowered => lowered

/-- What a token is, all numbers, texts and names being alike. -/
inductive Kind where
  | operator (operator : Operator)
  | openParen
  | closeParen
  | comma
  | number
  | text
  | name
  | finish
deriving DecidableEq, Repr

def Kind.label : Kind → String
  | .operator op => op.symbol.toString
  | .openParen => "("
  | .closeParen => ")"
  | .comma => ","
  | .number => "number"
  | .text => "text"
  | .name => "function"
  | .finish => "end of expression"

def Lexeme.kind : Lexeme → Kind
  | .operator op => .operator op
  | .openParen => .openParen
  | .closeParen => .closeParen
  | .comma => .comma
  | .number .. => .number
  | .text _ => .text
  | .name _ => .name

structure Token where
  lexeme : Lexeme
  position : Nat
deriving DecidableEq

end Calculator
