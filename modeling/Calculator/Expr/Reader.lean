import Calculator.Expr
import Calculator.Nesting
import Calculator.Token.Stream

/-!
# Reading expressions

An expression is read token by token. The state between two tokens is all that is open: the signs
and operators that wait for an operand, and the brackets around them. An error is therefore known at
the first token that cannot continue what came before, and nothing after that token has been looked
at.

The reader refuses nesting from a given depth on. Signs, parentheses and calls add to the depth, the
latter two more than one level each.
-/

namespace Calculator

inductive ParseError where
  | unexpected (token : Token) (expected : Option Kind)
  | unexpectedEnd (position : Nat) (expected : Option Kind)
  | tooDeep
deriving DecidableEq

namespace ParseError

private def withExpected (what : String) : Option Kind → String
  | some kind => s!"{what}, expected '{kind.label}'"
  | none => what

def message : ParseError → String
  | .unexpected token expected =>
    withExpected s!"unexpected '{token.lexeme.kind.label}'" expected
  | .unexpectedEnd _ expected => withExpected "unexpected end of expression" expected
  | .tooDeep => nestingMessage

def start : ParseError → Nat
  | .unexpected token _ => token.position
  | .unexpectedEnd position _ => position
  | .tooDeep => 0

/-- The end of the token at fault in a source of `length` characters: the token counts as long as it
is shown, but never as empty. -/
def stop (length : Nat) : ParseError → Nat
  | .unexpected token _ => token.position + max token.lexeme.shown.length 1
  | .unexpectedEnd position _ => position + 1
  | .tooDeep => length

end ParseError

inductive ReadError where
  | lexical (error : LexError)
  | grammatical (error : ParseError)
deriving DecidableEq

namespace Reader

/-! ## What is open -/

/-- The operators that wait for their right operand inside one pair of brackets, and the signs
before it, the innermost first. -/
structure Pending where
  sum : Option (Expr × Sign)
  product : Option (Expr × Scaling)
  signs : List Sign

def Pending.none : Pending :=
  ⟨.none, .none, []⟩

def Pending.close (pending : Pending) (operand : Expr) : Expr :=
  let factor := pending.signs.foldl (fun e sign => .signed sign e) operand
  match pending.product with
  | .none => factor
  | .some (left, scaling) => .binary left (.product scaling) factor

def closeSum (sum : Option (Expr × Sign)) (operand : Expr) : Expr :=
  match sum with
  | .none => operand
  | .some (left, sign) => .binary left (.sum sign) operand

/-- An open bracket, with the arguments before the current one in reverse order. -/
inductive Bracket where
  | group
  | call (name : String) (arguments : List Expr)

structure Enclosure where
  bracket : Bracket
  pending : Pending

inductive State where
  /-- An operand follows. -/
  | operand (pending : Pending) (outer : List Enclosure)
  /-- The parenthesis of a call follows. -/
  | callee (name : String) (pending : Pending) (outer : List Enclosure)
  /-- The first argument follows, or the end of a call without arguments. -/
  | firstArgument (name : String) (pending : Pending) (outer : List Enclosure)
  /-- An operator follows, or the end of what is open. -/
  | operator (value : Expr) (sum : Option (Expr × Sign)) (outer : List Enclosure)

/-! ## Depth -/

def Bracket.depth : Bracket → Nat
  | .group => 3
  | .call .. => 4

def Enclosure.depth (enclosure : Enclosure) : Nat :=
  enclosure.bracket.depth + enclosure.pending.signs.length

namespace State

def start : State :=
  .operand .none []

def outerDepth : List Enclosure → Nat
  | [] => 0
  | enclosure :: outer => enclosure.depth + outerDepth outer

/-- How deep a state stands. A sign, a parenthesis or a call opens its whole level at its token, the
parenthesis in the case of a call: before the token that follows is lexed, and before a call is known
to have an argument. -/
def depth : State → Nat
  | .operand pending outer => pending.signs.length + outerDepth outer
  | .callee _ pending outer => pending.signs.length + outerDepth outer
  | .firstArgument _ pending outer => 4 + pending.signs.length + outerDepth outer
  | .operator _ _ outer => outerDepth outer

/-! ## One token -/

def accept (pending : Pending) (outer : List Enclosure) (operand : Expr) : State :=
  .operator (pending.close operand) pending.sum outer

/-- The token that a state asks for by name, where there is only one. -/
def expected : State → Option Kind
  | .callee .. => some .openParen
  | .operator _ _ (_ :: _) => some .closeParen
  | _ => none

def stepOperand (pending : Pending) (outer : List Enclosure) : Lexeme → Option State
  | .operator (.sum sign) => some (.operand { pending with signs := sign :: pending.signs } outer)
  | .number _ value => some (accept pending outer (.number value))
  | .text content => some (accept pending outer (.text content))
  | .openParen => some (.operand .none (⟨.group, pending⟩ :: outer))
  | .name name => some (.callee name pending outer)
  | _ => none

def stepClose (last : Expr) : List Enclosure → Option State
  | ⟨.group, pending⟩ :: outer => some (accept pending outer last)
  | ⟨.call name arguments, pending⟩ :: outer =>
    some (accept pending outer (.call name (last :: arguments).reverse))
  | [] => none

def stepComma (last : Expr) : List Enclosure → Option State
  | ⟨.call name arguments, pending⟩ :: outer =>
    some (.operand .none (⟨.call name (last :: arguments), pending⟩ :: outer))
  | _ => none

def stepOperator (value : Expr) (sum : Option (Expr × Sign)) (outer : List Enclosure) :
    Lexeme → Option State
  | .operator (.sum sign) => some (.operand ⟨some (closeSum sum value, sign), .none, []⟩ outer)
  | .operator (.product scaling) => some (.operand ⟨sum, some (value, scaling), []⟩ outer)
  | .closeParen => stepClose (closeSum sum value) outer
  | .comma => stepComma (closeSum sum value) outer
  | _ => none

def step : State → Lexeme → Option State
  | .operand pending outer, lexeme => stepOperand pending outer lexeme
  | .callee name pending outer, .openParen => some (.firstArgument name pending outer)
  | .callee .., _ => none
  | .firstArgument name pending outer, .closeParen => some (accept pending outer (.call name []))
  | .firstArgument name pending outer, lexeme =>
    stepOperand .none (⟨.call name [], pending⟩ :: outer) lexeme
  | .operator value sum outer, lexeme => stepOperator value sum outer lexeme

end State

/-! ## Whole expressions -/

/-- The phrases that reading may stop at the end of. -/
inductive Phrase where
  | factor
  | term
  | expression
deriving DecidableEq, Repr

def Phrase.goesOn : Phrase → Lexeme → Bool
  | .term, .operator (.product _) => true
  | .expression, .operator _ => true
  | _, _ => false

/-- The phrase that a state outside all brackets has read. -/
def State.phrase? : State → Option Expr
  | .operator value sum [] => some (closeSum sum value)
  | _ => none

/-- A result or an error, and the tokens that are then ahead. The use of a token includes a look at
what follows, so a lexical error there leaves the token ahead. -/
abbrev Reading (α : Type) := Except ReadError α × Tokens

/-- Reads a phrase and stops before the first token that cannot continue it. -/
def State.run (phrase : Phrase) (limit : Option Nat) (state : State) : Tokens → Reading Expr
  | .fail error resume => (.error (.lexical error), .fail error resume)
  | .finish position =>
    match state.phrase? with
    | some e => (.ok e, .finish position)
    | none => (.error (.grammatical (.unexpectedEnd position state.expected)), .finish position)
  | .cons token ahead =>
    match state.phrase?.filter fun _ => !phrase.goesOn token.lexeme with
    | some e => (.ok e, .cons token ahead)
    | none =>
      match state.step token.lexeme with
      | none =>
        (.error (.grammatical (.unexpected token state.expected)), .cons token ahead)
      | some next =>
        if tooDeepAt limit next.depth then (.error (.grammatical .tooDeep), .cons token ahead)
        else
          match ahead with
          | .fail error resume => (.error (.lexical error), .cons token resume.tokens)
          | ahead => next.run phrase limit ahead

/-- Reads an expression that nothing may follow, or nothing at all. -/
def readAll (limit : Option Nat) : Tokens → Reading (Option Expr)
  | .finish position => (.ok none, .finish position)
  | tokens =>
    match State.start.run .expression limit tokens with
    | (.error error, rest) => (.error error, rest)
    | (.ok _, .cons token ahead) =>
      (.error (.grammatical (.unexpected token none)), .cons token ahead)
    | (.ok e, rest) => (.ok (some e), rest)

def readArguments (limit : Option Nat) (tokens : Tokens) : Reading (List Expr) :=
  match (State.callee "" .none []).run .factor limit tokens with
  | (.error error, rest) => (.error error, rest)
  | (.ok (.call _ arguments), rest) => (.ok arguments, rest)
  | (.ok _, rest) => (.ok [], rest)

def take (kind : Kind) : Tokens → Reading Unit
  | .fail error resume => (.error (.lexical error), .fail error resume)
  | .finish position =>
    if kind = .finish then (.ok (), .finish position)
    else (.error (.grammatical (.unexpectedEnd position (some kind))), .finish position)
  | .cons token ahead =>
    if token.lexeme.kind = kind then
      match ahead with
      | .fail error resume => (.error (.lexical error), .cons token resume.tokens)
      | ahead => (.ok (), ahead)
    else (.error (.grammatical (.unexpected token (some kind))), .cons token ahead)

end Reader

/-- The expression that a source spells; none when the source is blank. -/
def Expr.read (limit : Option Nat) (source : String) : Except ReadError (Option Expr) :=
  (Reader.readAll limit (Tokens.ofSource source)).1

end Calculator
