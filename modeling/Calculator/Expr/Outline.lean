import Calculator.Expr
import Calculator.Decimal.Notation
import Calculator.Fault
import Calculator.Text.Quoted

/-!
# Outlines

An expression shown as a tree: one line for each node, its operands below it and indented by four
more spaces, numbers with their shortest digits and texts in quotes. Each level of the tree takes
room for a call, and a tree with too many levels cannot be shown.
-/

namespace Calculator.Expr

def quote (text : String) : String :=
  String.ofList (Text.quoted text.toList)

def heading : Expr → String
  | .number value => s!"NumberLiteral(value={value.text}"
  | .text content => s!"TextLiteral(value={quote content}"
  | .signed sign _ => s!"UnaryOp(operator='{sign.symbol}'"
  | .binary _ op _ => s!"BinaryOp(operator='{op.symbol}'"
  | .call name _ => s!"Call(name='{name}'"
  | .bare => "Node("

def indentation (level : Nat) : String :=
  String.ofList (List.replicate (4 * level) ' ')

def operandList (level : Nat) : List String → String
  | [] => ""
  | operands => ", nodes=[\n" ++ ",\n".intercalate operands ++ "\n" ++ indentation level ++ "]"

def node (level : Nat) (e : Expr) (operands : List String) : String :=
  indentation level ++ e.heading ++ operandList level operands ++ ")"

mutual

def outline (level : Nat) : Expr → String
  | e@(.signed _ operand) => node level e [operand.outline (level + 1)]
  | e@(.binary left _ right) =>
    node level e [left.outline (level + 1), right.outline (level + 1)]
  | e@(.call _ arguments) => node level e (outlines (level + 1) arguments)
  | e => node level e []

def outlines (level : Nat) : List Expr → List String
  | [] => []
  | e :: es => e.outline level :: outlines level es

end

mutual

/-- What goes wrong first in an outline for which so many calls can be open at once. A node takes
one, its heading another, and the spelling of a number or a text a third. -/
def checkOutline (calls : Nat) (e : Expr) : Except Fault Unit :=
  if calls < 2 then .error .treeTooDeep
  else
    match e with
    | .number _ | .text _ => if calls < 3 then .error .literalTooDeep else .ok ()
    | .signed _ operand => operand.checkOutline (calls - 1)
    | .binary left _ right => do
      left.checkOutline (calls - 1)
      right.checkOutline (calls - 1)
    | .call _ arguments => checkOutlines (calls - 1) arguments
    | .bare => .ok ()

def checkOutlines (calls : Nat) : List Expr → Except Fault Unit
  | [] => .ok ()
  | e :: es => do
    e.checkOutline calls
    checkOutlines calls es

end

end Calculator.Expr
