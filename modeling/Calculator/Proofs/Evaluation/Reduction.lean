import Calculator.Evaluation

/-!
# Reduction

`Reduces` says which value an expression has, with one rule for each kind of node, and not how the
value is found. Within the limit evaluation finds this value and no other (`value_eq_ok`), and how
deep the expression stands does not matter (`evaluate_eq_value`).
-/

namespace Calculator

/-! ## Outcomes of operators and functions -/

section

variable {α β : Type} {x : Except EvalError α} {f : α → Except EvalError β} {error : EvalError}

theorem bind_eq_ok {b : β} : (x >>= f) = .ok b ↔ ∃ a, x = .ok a ∧ f a = .ok b := by
  cases x <;> simp [bind, Except.bind]

theorem bind_eq_error :
    (x >>= f) = .error error ↔ x = .error error ∨ ∃ a, x = .ok a ∧ f a = .error error := by
  cases x <;> simp [bind, Except.bind]

end

theorem Sign.applyTo_eq_ok {sign : Sign} {operand value : Value} :
    sign.applyTo operand = .ok value ↔
      ∃ x, operand = .number x ∧ value = .number (sign.apply x) := by
  cases operand <;> simp [applyTo, eq_comm]

theorem Sign.applyTo_eq_error {sign : Sign} {operand : Value} {error : EvalError} :
    sign.applyTo operand = .error error ↔
      (∃ content, operand = .text content) ∧ error = .signOperand sign := by
  cases operand <;> simp [applyTo, eq_comm]

theorem Operator.applyTo_eq_ok {op : Operator} {left right value : Value} :
    op.applyTo left right = .ok value ↔
      ∃ x y, left = .number x ∧ right = .number y ∧ value = .number (op.apply x y) := by
  cases left <;> cases right <;> simp [applyTo, eq_comm]

theorem Operator.applyTo_eq_error {op : Operator} {left right : Value} {error : EvalError} :
    op.applyTo left right = .error error ↔
      (left.kind = .text ∨ right.kind = .text) ∧
        error = .operands op left.kind right.kind := by
  cases left <;> cases right <;> simp [applyTo, Value.kind, eq_comm]

theorem Registry.find_eq_ok {functions : Registry} {name : String} {f : Builtin} :
    functions.find name = .ok f ↔ functions.lookup name = some f := by
  rw [find]
  cases functions.lookup name <;> simp

theorem Registry.find_eq_error {functions : Registry} {name : String} {error : EvalError} :
    functions.find name = .error error ↔
      functions.lookup name = none ∧ error = .unknownFunction name := by
  rw [find]
  cases functions.lookup name <;> simp [eq_comm]

theorem tooDeepAt_of_le {limit : Option Nat} {m n : Nat} (h : m ≤ n)
    (hn : tooDeepAt limit n = false) : tooDeepAt limit m = false := by
  cases limit with
  | none => rfl
  | some limit =>
    simp only [tooDeepAt, Option.any_some, decide_eq_false_iff_not] at hn ⊢
    omega

namespace Expr

/-! ## Values within the limit -/

mutual

/-- How far below an expression its deepest part stands. -/
def height : Expr → Nat
  | .number _ | .text _ | .bare => 0
  | .signed _ operand => operand.height + 1
  | .binary left _ right => max left.height right.height + 1
  | .call _ arguments => heightAll arguments

def heightAll : List Expr → Nat
  | [] => 0
  | e :: es => max (e.height + 2) (heightAll es)

end

/-- What evaluation gives for an expression that is not nested too deeply. -/
def value (functions : Registry) (e : Expr) : Except EvalError Value :=
  e.evaluate functions none 0

def valueAll (functions : Registry) (es : List Expr) : Except EvalError (List Value) :=
  evaluateAll functions none 0 es

mutual

theorem evaluate_eq_value (functions : Registry) {limit : Option Nat} {depth : Nat} {e : Expr}
    (h : tooDeepAt limit (depth + e.height) = false) :
    e.evaluate functions limit depth = e.value functions := by
  -- Without a limit the height does not count, so the statement is used for the right side as well.
  have hdepth : tooDeepAt limit depth = false := tooDeepAt_of_le (Nat.le_add_right ..) h
  rw [value, evaluate.eq_def, evaluate.eq_def functions none, if_neg (by simp [hdepth]),
    if_neg (by simp [tooDeepAt])]
  cases e with
  | number | text | bare => rfl
  | signed sign operand =>
    rw [height] at h
    have hoperand : tooDeepAt limit (depth + 1 + operand.height) = false :=
      tooDeepAt_of_le (by omega) h
    simp only [evaluate_eq_value functions hoperand,
      @evaluate_eq_value functions none _ operand rfl]
  | binary left op right =>
    rw [height] at h
    have hleft : tooDeepAt limit (depth + 1 + left.height) = false :=
      tooDeepAt_of_le (by omega) h
    have hright : tooDeepAt limit (depth + 1 + right.height) = false :=
      tooDeepAt_of_le (by omega) h
    simp only [evaluate_eq_value functions hleft, evaluate_eq_value functions hright,
      @evaluate_eq_value functions none _ left rfl,
      @evaluate_eq_value functions none _ right rfl]
  | call name arguments =>
    rw [height] at h
    simp only [evaluateAll_eq_valueAll functions h,
      @evaluateAll_eq_valueAll functions none _ arguments rfl]

theorem evaluateAll_eq_valueAll (functions : Registry) {limit : Option Nat} {depth : Nat}
    {es : List Expr} (h : tooDeepAt limit (depth + heightAll es) = false) :
    evaluateAll functions limit (depth + 2) es = valueAll functions es := by
  cases es with
  | nil => rfl
  | cons e es =>
    rw [heightAll] at h
    have hfirst : tooDeepAt limit (depth + 2 + e.height) = false :=
      tooDeepAt_of_le (by omega) h
    have hrest : tooDeepAt limit (depth + heightAll es) = false :=
      tooDeepAt_of_le (by omega) h
    simp only [valueAll, evaluateAll]
    rw [evaluate_eq_value functions hfirst, evaluateAll_eq_valueAll functions hrest]
    rfl

end

section

variable (functions : Registry)

@[simp] theorem value_number (x : Binary64) :
    (number x).value functions = .ok (.number x) := by
  simp [value, evaluate, tooDeepAt]

@[simp] theorem value_text (content : String) :
    (text content).value functions = .ok (.text content) := by
  simp [value, evaluate, tooDeepAt]

@[simp] theorem value_bare : bare.value functions = .error .bareNode := by
  simp [value, evaluate, tooDeepAt]

theorem value_signed (sign : Sign) (operand : Expr) :
    (signed sign operand).value functions = operand.value functions >>= sign.applyTo := by
  rw [← @evaluate_eq_value functions none 1 operand rfl, value, evaluate]
  rfl

theorem value_binary (left : Expr) (op : Operator) (right : Expr) :
    (binary left op right).value functions =
      (left.value functions >>= fun x => right.value functions >>= fun y => op.applyTo x y) := by
  rw [← @evaluate_eq_value functions none 1 left rfl,
    ← @evaluate_eq_value functions none 1 right rfl, value, evaluate]
  rfl

theorem value_call (name : String) (arguments : List Expr) :
    (call name arguments).value functions =
      (functions.find name >>= fun f => valueAll functions arguments >>= f.apply) := by
  rw [← @evaluateAll_eq_valueAll functions none 0 arguments rfl, value, evaluate]
  rfl

@[simp] theorem valueAll_nil : valueAll functions [] = .ok [] :=
  rfl

theorem valueAll_cons (e : Expr) (es : List Expr) :
    valueAll functions (e :: es) =
      (e.value functions >>= fun x => valueAll functions es >>= fun xs => .ok (x :: xs)) :=
  rfl

end

/-! ## Reduction -/

mutual

inductive Reduces (functions : Registry) : Expr → Value → Prop
  | number {x : Binary64} : Reduces functions (.number x) (.number x)
  | text {content : String} : Reduces functions (.text content) (.text content)
  | signed {sign : Sign} {operand : Expr} {x : Binary64}
      (operand_reduces : Reduces functions operand (.number x)) :
      Reduces functions (.signed sign operand) (.number (sign.apply x))
  | binary {left right : Expr} {op : Operator} {x y : Binary64}
      (left_reduces : Reduces functions left (.number x))
      (right_reduces : Reduces functions right (.number y)) :
      Reduces functions (.binary left op right) (.number (op.apply x y))
  | call {name : String} {arguments : List Expr} {f : Builtin} {values : List Value}
      {result : Value} (registered : functions.lookup name = some f)
      (arguments_reduce : ReducesAll functions arguments values)
      (applied : f.apply values = .ok result) :
      Reduces functions (.call name arguments) result

inductive ReducesAll (functions : Registry) : List Expr → List Value → Prop
  | nil : ReducesAll functions [] []
  | cons {e : Expr} {es : List Expr} {x : Value} {xs : List Value}
      (first : Reduces functions e x) (rest : ReducesAll functions es xs) :
      ReducesAll functions (e :: es) (x :: xs)

end

section

variable {functions : Registry}

mutual

theorem value_eq_ok {e : Expr} {result : Value} :
    e.value functions = .ok result ↔ Reduces functions e result := by
  cases e with
  | number x =>
    rw [value_number]
    constructor
    · rintro ⟨⟩
      exact .number
    · rintro ⟨⟩
      rfl
  | text content =>
    rw [value_text]
    constructor
    · rintro ⟨⟩
      exact .text
    · rintro ⟨⟩
      rfl
  | bare =>
    rw [value_bare]
    exact ⟨nofun, nofun⟩
  | signed sign operand =>
    simp only [value_signed, bind_eq_ok, Sign.applyTo_eq_ok, value_eq_ok (e := operand)]
    constructor
    · rintro ⟨_, hoperand, x, rfl, rfl⟩
      exact .signed hoperand
    · intro h
      cases h with
      | signed hoperand => exact ⟨_, hoperand, _, rfl, rfl⟩
  | binary left op right =>
    simp only [value_binary, bind_eq_ok, Operator.applyTo_eq_ok, value_eq_ok (e := left),
      value_eq_ok (e := right)]
    constructor
    · rintro ⟨_, hleft, _, hright, x, y, rfl, rfl, rfl⟩
      exact .binary hleft hright
    · intro h
      cases h with
      | binary hleft hright => exact ⟨_, hleft, _, hright, _, _, rfl, rfl, rfl⟩
  | call name arguments =>
    simp only [value_call, bind_eq_ok, Registry.find_eq_ok, @valueAll_eq_ok arguments]
    constructor
    · rintro ⟨f, hname, values, harguments, happlied⟩
      exact .call hname harguments happlied
    · intro h
      cases h with
      | call hname harguments happlied => exact ⟨_, hname, _, harguments, happlied⟩

theorem valueAll_eq_ok {es : List Expr} {results : List Value} :
    valueAll functions es = .ok results ↔ ReducesAll functions es results := by
  cases es with
  | nil =>
    rw [valueAll_nil]
    constructor
    · rintro ⟨⟩
      exact .nil
    · rintro ⟨⟩
      rfl
  | cons e es =>
    simp only [valueAll_cons, bind_eq_ok, value_eq_ok (e := e), @valueAll_eq_ok es]
    constructor
    · rintro ⟨x, hfirst, xs, hrest, ⟨⟩⟩
      exact .cons hfirst hrest
    · intro h
      cases h with
      | cons hfirst hrest => exact ⟨_, hfirst, _, hrest, rfl⟩

end

theorem Reduces.unique {e : Expr} {x y : Value} (hx : Reduces functions e x)
    (hy : Reduces functions e y) : x = y := by
  rw [← value_eq_ok] at hx hy
  exact Except.ok.inj (hx.symm.trans hy)

theorem ReducesAll.unique {es : List Expr} {xs ys : List Value}
    (hxs : ReducesAll functions es xs) (hys : ReducesAll functions es ys) : xs = ys := by
  rw [← valueAll_eq_ok] at hxs hys
  exact Except.ok.inj (hxs.symm.trans hys)

end

end Expr

end Calculator
