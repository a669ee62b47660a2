import Calculator.Decimal.Notation
import Calculator.Proofs.Expr.Depth
import Calculator.Proofs.Expr.Spacing

/-!
# Printed expressions

A tree is printed with the parentheses that the place where it stands needs and no others. What is
printed is derived from the grammar as that tree (`Built.derives`), and the depth that reading it
takes is known from the tree (`Built.reaches`).
-/

namespace Calculator

open Reader

def Operator.phrase : Operator → Phrase
  | .sum _ => .expression
  | .product _ => .term

def Operator.rightPhrase : Operator → Phrase
  | .sum _ => .term
  | .product _ => .factor

/-- Whether the phrase may be made by the operator. -/
def Reader.Phrase.admits : Phrase → Operator → Bool
  | .expression, _ => true
  | .term, .product _ => true
  | _, _ => false

def inParens (bare : Bool) (ls : List Lexeme) : List Lexeme :=
  if bare then ls else .openParen :: (ls ++ [.closeParen])

namespace Expr

mutual

/-- The lexemes of a tree that stands where a phrase is wanted. -/
def printed (phrase : Phrase) : Expr → List Lexeme
  | .number value => [.number value.text value]
  | .text content => [.text content]
  | .signed sign operand => .operator (.sum sign) :: operand.printed .factor
  | .binary left op right =>
    inParens (phrase.admits op)
      (left.printed op.phrase ++ .operator op :: right.printed op.rightPhrase)
  | .call name arguments =>
    .name name :: .openParen :: (separated (printedAll arguments) ++ [.closeParen])
  | .bare => []

def printedAll : List Expr → List (List Lexeme)
  | [] => []
  | e :: es => e.printed .expression :: printedAll es

end

mutual

/-- The depth that reading the printed tree adds to that of its place. -/
def nesting (phrase : Phrase) : Expr → Nat
  | .number _ | .text _ | .bare => 0
  | .signed _ operand => 1 + operand.nesting .factor
  | .binary left op right =>
    (if phrase.admits op then 0 else 3) +
      max (left.nesting op.phrase) (right.nesting op.rightPhrase)
  | .call _ arguments => 4 + nestingOfAll arguments

def nestingOfAll : List Expr → Nat
  | [] => 0
  | e :: es => max (e.nesting .expression) (nestingOfAll es)

end

/-- A tree without bare nodes and quotation marks, with numbers and names of certain kinds. -/
inductive Built (numbers : Binary64 → Prop) (names : String → Prop) : Expr → Prop
  | number {value : Binary64} : numbers value → Built numbers names (.number value)
  | text {content : String} : content.toList.all (· != '"') = true →
      Built numbers names (.text content)
  | signed {operand : Expr} (sign : Sign) : Built numbers names operand →
      Built numbers names (.signed sign operand)
  | binary {left right : Expr} (op : Operator) : Built numbers names left →
      Built numbers names right → Built numbers names (.binary left op right)
  | call {name : String} {arguments : List Expr} : names name →
      (∀ a ∈ arguments, Built numbers names a) → Built numbers names (.call name arguments)

theorem printedAll_eq (es : List Expr) : printedAll es = es.map (printed .expression) := by
  induction es with
  | nil => rfl
  | cons e es ih => rw [printedAll, ih, List.map_cons]

theorem nestingOfAll_eq (es : List Expr) :
    nestingOfAll es = (es.map (nesting .expression)).foldr max 0 := by
  induction es with
  | nil => rfl
  | cons e es ih => rw [nestingOfAll, ih, List.map_cons, List.foldr_cons]

end Expr

namespace Reader

/-! ## A phrase in the place of another -/

theorem Derives.lift {ls : List Lexeme} {e : Expr} (h : Derives .factor ls e) (phrase : Phrase) :
    Derives phrase ls e := by
  cases phrase with
  | factor => exact h
  | term => exact .factor h
  | expression => exact .term (.factor h)

theorem Phrase.Reaches.lift {ls : List Lexeme} {n : Nat} (h : Phrase.Reaches .factor ls n)
    (phrase : Phrase) : phrase.Reaches ls n := by
  cases phrase with
  | factor => exact h
  | term => exact h.term
  | expression => exact h.term.expression

theorem Derives.expression {ls : List Lexeme} {e : Expr} (op : Operator)
    (h : Derives op.phrase ls e) : Derives .expression ls e := by
  cases op with
  | sum => exact h
  | product => exact .term h

theorem Phrase.Reaches.ofOperator {ls : List Lexeme} {n : Nat} (op : Operator)
    (h : op.phrase.Reaches ls n) : Phrase.Reaches .expression ls n := by
  cases op with
  | sum => exact h
  | product => exact h.expression

theorem Derives.inParens {ls : List Lexeme} {e : Expr} {op : Operator} (phrase : Phrase)
    (h : Derives op.phrase ls e) : Derives phrase (inParens (phrase.admits op) ls) e := by
  have hgroup := (Derives.group (h.expression op)).lift
  cases phrase with
  | expression => exact h.expression op
  | term =>
    cases op with
    | sum => exact hgroup .term
    | product => exact h
  | factor => exact hgroup .factor

theorem Phrase.Reaches.inParens {ls : List Lexeme} {e : Expr} {op : Operator} {n : Nat}
    (phrase : Phrase) (hd : Derives op.phrase ls e) (h : op.phrase.Reaches ls n) :
    phrase.Reaches (inParens (phrase.admits op) ls) ((if phrase.admits op then 0 else 3) + n) := by
  have hgroup := (Phrase.Reaches.group (hd.expression op) (h.ofOperator op)).lift
  cases phrase with
  | expression => simpa [Phrase.admits, Calculator.inParens] using h.ofOperator op
  | term =>
    cases op with
    | sum => exact hgroup .term
    | product =>
      have h : Phrase.term.Reaches ls n := h
      simpa [Phrase.admits, Calculator.inParens] using h
  | factor => exact hgroup .factor

end Reader

namespace Expr.Built

variable {numbers : Binary64 → Prop} {names : String → Prop} {e : Expr}

theorem derives (h : e.Built numbers names) (phrase : Phrase) :
    Derives phrase (e.printed phrase) e := by
  induction h generalizing phrase with
  | number => exact (Derives.number _ _).lift phrase
  | text => exact (Derives.text _).lift phrase
  | signed sign _ ih => exact (Derives.signed sign (ih .factor)).lift phrase
  | binary op _ _ ihl ihr =>
    refine Derives.inParens phrase ?_
    cases op with
    | sum sign => exact .sum sign (ihl .expression) (ihr .term)
    | product scaling => exact .product scaling (ihl .term) (ihr .factor)
  | @call name arguments _ _ ih =>
    have hall : ∀ a ∈ arguments.map (fun a => (a.printed .expression, a)),
        Derives .expression a.1 a.2 := List.forall_mem_map.mpr fun a ha => ih a ha .expression
    have := (Derives.call name _ hall).lift phrase
    simpa [printed, printedAll_eq, List.map_map, Function.comp_def] using this

theorem reaches (h : e.Built numbers names) (phrase : Phrase) :
    phrase.Reaches (e.printed phrase) (e.nesting phrase) := by
  induction h generalizing phrase with
  | number => exact (Phrase.Reaches.operand fun _ _ => rfl).lift phrase
  | text => exact (Phrase.Reaches.operand fun _ _ => rfl).lift phrase
  | signed sign _ ih => exact (Phrase.Reaches.signed sign (ih .factor)).lift phrase
  | binary op hl hr ihl ihr =>
    cases op with
    | sum sign =>
      have hd := Derives.sum sign (hl.derives .expression) (hr.derives .term)
      exact .inParens phrase hd (.sum sign (hl.derives .expression) (ihl .expression) (ihr .term))
    | product scaling =>
      have hd := Derives.product scaling (hl.derives .term) (hr.derives .factor)
      exact .inParens phrase hd (.product scaling (hl.derives .term) (ihl .term) (ihr .factor))
  | @call name arguments _ ha ih =>
    have hall : ∀ a ∈ arguments.map (fun a => (a.printed .expression, a)),
        Derives .expression a.1 a.2 ∧ Phrase.Reaches .expression a.1 (a.2.nesting .expression) :=
      List.forall_mem_map.mpr fun a hm => ⟨(ha a hm).derives .expression, ih a hm .expression⟩
    have := (Phrase.Reaches.call name _ (fun a => a.2.nesting .expression) hall).lift phrase
    simpa [printed, nesting, printedAll_eq, nestingOfAll_eq, List.map_map, Function.comp_def]
      using this

end Expr.Built

end Calculator
