import Calculator.Evaluation
import Calculator.Proofs.Trap.Builtin

/-!
# Partial operations of evaluation

Operators and functions are looked up in tables. The operators of a tree are all in theirs, and a
function that is missing is an error of the language. What nests too deeply traps, and stays a trap
until the whole evaluation has ended (`reduce_eq`).
-/

namespace Calculator

/-! ## Failures of operators and functions -/

/-- The errors that are found in a tree before any values are looked at. -/
def EvalError.isOfTree : EvalError → Bool
  | .bareNode | .tooDeep => true
  | _ => false

section

variable {α β : Type} {error : EvalError}

theorem bind_ne {x : Except EvalError α} {f : α → Except EvalError β} (hx : x ≠ .error error)
    (hf : ∀ a, f a ≠ .error error) : (x >>= f) ≠ .error error := by
  cases x with
  | ok a => exact hf a
  | error e => exact fun h => hx (congrArg Except.error (Except.error.inj h))

theorem ok_ne (a : α) : (.ok a : Except EvalError α) ≠ .error error :=
  nofun

variable (h : error.isOfTree = true)
include h

theorem error_ne {other : EvalError} (hother : other.isOfTree = false) :
    (.error other : Except EvalError α) ≠ .error error := by
  rintro ⟨⟩
  rw [h] at hother
  cases hother

theorem Conversion.digitsOf_ne (value : Value) : digitsOf value ≠ .error error := by
  cases value with
  | number x =>
    rw [digitsOf]
    split
    · exact ok_ne _
    · exact error_ne h rfl
  | text text =>
    simp only [digitsOf]
    split
    · exact ok_ne _
    · exact error_ne h rfl

theorem Conversion.baseOf_ne (value : Value) : baseOf value ≠ .error error := by
  unfold baseOf
  split
  · exact error_ne h rfl
  · split
    · exact ok_ne _
    · exact error_ne h rfl

theorem Conversion.convert_ne (value source target : Value) :
    convert value source target ≠ .error error := by
  refine bind_ne (digitsOf_ne h _) fun digits => bind_ne (baseOf_ne h _) fun source =>
    bind_ne (baseOf_ne h _) fun target => bind_ne ?_ fun n => ?_
  · unfold toDecimal
    split
    · exact ok_ne _
    · exact error_ne h rfl
  · unfold express
    split
    · split
      · exact ok_ne _
      · exact error_ne h rfl
    · exact ok_ne _

theorem Builtin.apply_ne (f : Builtin) (arguments : List Value) :
    f.apply arguments ≠ .error error := by
  unfold apply
  split
  case h_1 => exact Conversion.convert_ne h _ _ _
  case h_5 =>
    split
    · exact ok_ne _
    · exact error_ne h rfl
  case h_10 => exact error_ne h rfl
  all_goals exact ok_ne _

theorem Sign.applyTo_ne (sign : Sign) (value : Value) : sign.applyTo value ≠ .error error := by
  cases value with
  | number => exact ok_ne _
  | text => exact error_ne h rfl

theorem Operator.applyTo_ne (op : Operator) (x y : Value) : op.applyTo x y ≠ .error error := by
  unfold applyTo
  split
  · exact ok_ne _
  · exact error_ne h rfl

theorem Registry.find_ne (functions : Registry) (name : String) :
    functions.find name ≠ .error error := by
  unfold find
  split
  · exact ok_ne _
  · exact error_ne h rfl

end

namespace Trapping

variable {ε : Type}

/-! ## Operators -/

def signs : List (Kind × (Binary64 → Binary64)) :=
  [(.operator (.sum .plus), fun x => x), (.operator (.sum .minus), .neg)]

def operators : List (Kind × (Binary64 → Binary64 → Trapping ε Binary64)) :=
  [(.operator (.sum .plus), fun x y => .ok (x.add y)),
    (.operator (.sum .minus), fun x y => .ok (x.sub y)),
    (.operator (.product .times), fun x y => .ok (x.mul y)),
    (.operator (.product .over), divide), (.operator (.product .modulo), modulo)]

def applySign (sign : Sign) : Value → Trapping EvalError Value
  | .number x => do
    let f ← keyed (.operator (.sum sign)) signs
    .ok (.number (f x))
  | .text _ => raise (.signOperand sign)

def applyOperator (op : Operator) : Value → Value → Trapping EvalError Value
  | .number x, .number y => do
    let f ← keyed (.operator op) operators
    let z ← f x y
    .ok (.number z)
  | left, right => raise (.operands op left.kind right.kind)

def find (functions : Registry) (name : String) : Trapping EvalError Builtin :=
  handle [.missingKey] (keyed name functions) (raise (.unknownFunction name))

theorem applySign_eq (sign : Sign) (value : Value) :
    applySign sign value = contained (sign.applyTo value) := by
  cases value with
  | number x => cases sign <;> rfl
  | text => rfl

theorem keyed_operators (op : Operator) (x y : Binary64) :
    ((keyed (.operator op) operators : Trapping ε _) >>= fun f => f x y) = .ok (op.apply x y) := by
  rcases op with (_ | _) | (_ | _ | _)
  · rfl
  · rfl
  · rfl
  · exact divide_eq x y
  · exact modulo_eq x y

theorem applyOperator_eq (op : Operator) (x y : Value) :
    applyOperator op x y = contained (op.applyTo x y) := by
  cases x with
  | text => rfl
  | number x =>
    cases y with
    | text => rfl
    | number y =>
      rw [applyOperator, ← bind_assoc, keyed_operators]
      rfl

theorem find_eq (functions : Registry) (name : String) :
    find functions name = contained (functions.find name) := by
  rw [find, keyed, Registry.find]
  cases functions.lookup name with
  | none => exact handle_trap List.mem_cons_self _
  | some f => rfl

/-! ## Trees -/

mutual

def reduce (functions : Registry) (limit : Option Nat) (depth : Nat) (e : Expr) :
    Trapping EvalError Value :=
  if tooDeepAt limit depth then trap .recursion
  else
    match e with
    | .number value => .ok (.number value)
    | .text content => .ok (.text content)
    | .signed sign operand => do
      let value ← reduce functions limit (depth + 1) operand
      applySign sign value
    | .binary left op right => do
      let x ← reduce functions limit (depth + 1) left
      let y ← reduce functions limit (depth + 1) right
      applyOperator op x y
    | .call name arguments => do
      let f ← find functions name
      let values ← reduceAll functions limit (depth + 2) arguments
      apply f values
    | .bare => raise .bareNode

def reduceAll (functions : Registry) (limit : Option Nat) (depth : Nat) :
    List Expr → Trapping EvalError (List Value)
  | [] => .ok []
  | e :: es => do
    let value ← reduce functions limit depth e
    let values ← reduceAll functions limit depth es
    .ok (value :: values)

end

mutual

theorem reduce_eq (functions : Registry) (limit : Option Nat) (depth : Nat) (e : Expr) :
    reduce functions limit depth e = limited .tooDeep (e.evaluate functions limit depth) := by
  rw [reduce.eq_def, Expr.evaluate.eq_def]
  split
  · rfl
  · -- Only the limit on trees gives this error, no operator or function does.
    have hdeep : EvalError.tooDeep.isOfTree = true := rfl
    cases e with
    | number | text | bare => rfl
    | signed sign operand =>
      simp only [limited_bind, reduce_eq functions limit (depth + 1) operand, applySign_eq,
        limited_of_ne (sign.applyTo_ne hdeep _)]
    | binary left op right =>
      simp only [limited_bind, reduce_eq functions limit (depth + 1) left,
        reduce_eq functions limit (depth + 1) right, applyOperator_eq,
        limited_of_ne (op.applyTo_ne hdeep _ _)]
    | call name arguments =>
      simp only [limited_bind, find_eq, limited_of_ne (functions.find_ne hdeep _),
        reduceAll_eq functions limit (depth + 2) arguments, apply_eq,
        limited_of_ne (Builtin.apply_ne hdeep _ _)]

theorem reduceAll_eq (functions : Registry) (limit : Option Nat) (depth : Nat) (es : List Expr) :
    reduceAll functions limit depth es =
      limited .tooDeep (Expr.evaluateAll functions limit depth es) := by
  cases es with
  | nil => rfl
  | cons e es =>
    simp only [reduceAll, Expr.evaluateAll, limited_bind, reduce_eq functions limit depth e,
      reduceAll_eq functions limit depth es]
    rfl

end

def run (functions : Registry) (limit : Option Nat) (e : Expr) : Trapping EvalError Value :=
  handle [.recursion] (reduce functions limit 0 e) (raise .tooDeep)

theorem run_eq (functions : Registry) (limit : Option Nat) (e : Expr) :
    run functions limit e = contained (e.evaluate functions limit 0) := by
  rw [run, reduce_eq]
  exact handle_limited _ _

end Trapping

end Calculator
