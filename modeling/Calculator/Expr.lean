import Calculator.Token

/-!
# Expressions

Parentheses leave no trace in an expression. A bare node is no expression of the language: nothing
that is read contains one and it has no value.
-/

namespace Calculator

inductive Expr where
  | number (value : Binary64)
  | text (content : String)
  | signed (sign : Sign) (operand : Expr)
  | binary (left : Expr) (operator : Operator) (right : Expr)
  | call (name : String) (arguments : List Expr)
  | bare

end Calculator
