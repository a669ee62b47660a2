import Calculator.Proofs.Evaluation.Reduction
import Calculator.Proofs.Nesting.Reading
import Calculator.Proofs.Trap.Evaluation

/-!
# The nesting guard in evaluation

Evaluation comes to a part of an expression when all that it evaluates first has a value. It reaches
a limit when it comes to a part that stands so deep (`Expr.Reaches`), and then it is refused;
otherwise the limit does not show (`Expr.evaluate_guarded`). Together with reading this is
`nesting_guard`.
-/

namespace Calculator

namespace Expr

mutual

/-- Evaluation without a limit, of an expression that stands at `depth`, comes to a part that stands
at the limit or deeper. -/
inductive Reaches (functions : Registry) (limit : Nat) : Nat → Expr → Prop
  | here {depth : Nat} {e : Expr} (deep : limit ≤ depth) : Reaches functions limit depth e
  | operand {depth : Nat} {sign : Sign} {operand : Expr}
      (deep : Reaches functions limit (depth + 1) operand) :
      Reaches functions limit depth (.signed sign operand)
  | left {depth : Nat} {left right : Expr} {op : Operator}
      (deep : Reaches functions limit (depth + 1) left) :
      Reaches functions limit depth (.binary left op right)
  | right {depth : Nat} {left right : Expr} {op : Operator} {x : Value}
      (left_reduces : left.Reduces functions x)
      (deep : Reaches functions limit (depth + 1) right) :
      Reaches functions limit depth (.binary left op right)
  | argument {depth : Nat} {name : String} {arguments : List Expr} {f : Builtin}
      (registered : functions.lookup name = some f)
      (deep : ReachesAmong functions limit (depth + 2) arguments) :
      Reaches functions limit depth (.call name arguments)

inductive ReachesAmong (functions : Registry) (limit : Nat) : Nat → List Expr → Prop
  | first {depth : Nat} {e : Expr} {es : List Expr} (deep : Reaches functions limit depth e) :
      ReachesAmong functions limit depth (e :: es)
  | later {depth : Nat} {e : Expr} {es : List Expr} {x : Value}
      (first_reduces : e.Reduces functions x) (deep : ReachesAmong functions limit depth es) :
      ReachesAmong functions limit depth (e :: es)

end

section

variable {functions : Registry}

mutual

theorem Reaches.mono {limit larger depth : Nat} {e : Expr}
    (h : Reaches functions larger depth e) (hle : limit ≤ larger) :
    Reaches functions limit depth e := by
  cases h with
  | here hdeep => exact .here (Nat.le_trans hle hdeep)
  | operand hdeep => exact .operand (hdeep.mono hle)
  | left hdeep => exact .left (hdeep.mono hle)
  | right hleft hdeep => exact .right hleft (hdeep.mono hle)
  | argument hname hdeep => exact .argument hname (hdeep.mono hle)

theorem ReachesAmong.mono {limit larger depth : Nat} {es : List Expr}
    (h : ReachesAmong functions larger depth es) (hle : limit ≤ larger) :
    ReachesAmong functions limit depth es := by
  cases h with
  | first hdeep => exact .first (hdeep.mono hle)
  | later hfirst hdeep => exact .later hfirst (hdeep.mono hle)

end

variable {limit depth : Nat}

theorem reaches_signed (h : ¬ limit ≤ depth) {sign : Sign} {operand : Expr} :
    Reaches functions limit depth (.signed sign operand) ↔
      Reaches functions limit (depth + 1) operand := by
  constructor
  · rintro (hdeep | hdeep)
    · exact absurd hdeep h
    · exact hdeep
  · exact .operand

theorem reaches_binary (h : ¬ limit ≤ depth) {left right : Expr} {op : Operator} :
    Reaches functions limit depth (.binary left op right) ↔
      Reaches functions limit (depth + 1) left ∨
        (∃ x, left.value functions = .ok x) ∧ Reaches functions limit (depth + 1) right := by
  simp only [value_eq_ok]
  constructor
  · intro hdeep
    cases hdeep with
    | here hdeep => exact absurd hdeep h
    | left hdeep => exact .inl hdeep
    | right hleft hdeep => exact .inr ⟨⟨_, hleft⟩, hdeep⟩
  · rintro (hdeep | ⟨⟨x, hleft⟩, hdeep⟩)
    · exact .left hdeep
    · exact .right hleft hdeep

theorem reaches_call (h : ¬ limit ≤ depth) {name : String} {arguments : List Expr} :
    Reaches functions limit depth (.call name arguments) ↔
      (∃ f, functions.find name = .ok f) ∧ ReachesAmong functions limit (depth + 2) arguments := by
  simp only [Registry.find_eq_ok]
  constructor
  · intro hdeep
    cases hdeep with
    | here hdeep => exact absurd hdeep h
    | argument hname hdeep => exact ⟨⟨_, hname⟩, hdeep⟩
  · rintro ⟨⟨f, hname⟩, hdeep⟩
    exact .argument hname hdeep

theorem reachesAmong_cons {e : Expr} {es : List Expr} :
    ReachesAmong functions limit depth (e :: es) ↔
      Reaches functions limit depth e ∨
        (∃ x, e.value functions = .ok x) ∧ ReachesAmong functions limit depth es := by
  simp only [value_eq_ok]
  constructor
  · intro hdeep
    cases hdeep with
    | first hdeep => exact .inl hdeep
    | later hfirst hdeep => exact .inr ⟨⟨_, hfirst⟩, hdeep⟩
  · rintro (hdeep | ⟨⟨x, hfirst⟩, hdeep⟩)
    · exact .first hdeep
    · exact .later hfirst hdeep

mutual

theorem evaluate_guarded (functions : Registry) (limit depth : Nat) (e : Expr) :
    Guarded .tooDeep (Reaches functions limit depth e) (e.value functions)
      (e.evaluate functions (some limit) depth) := by
  have htree : EvalError.tooDeep.isOfTree = true := rfl
  rw [evaluate.eq_def]
  by_cases h : limit ≤ depth
  · rw [if_pos (by simpa [tooDeepAt] using h)]
    exact .refused (.here h)
  rw [if_neg (by simpa [tooDeepAt] using h)]
  -- The guards of the parts are composed in the order of evaluation. The step that follows them has
  -- no limit, so it adds `False` to what is reached.
  cases e with
  | number | text | bare =>
    simp only [value_number, value_text, value_bare]
    refine .transparent (fun hdeep => ?_) (by simp)
    cases hdeep with
    | here hdeep => exact h hdeep
  | signed sign operand =>
    rw [value_signed]
    refine ((evaluate_guarded functions limit (depth + 1) operand).bind fun x _ =>
      .unguarded (sign.applyTo_ne htree x)).congr ?_
    rw [reaches_signed h, and_false, or_false]
  | binary left op right =>
    rw [value_binary]
    refine ((evaluate_guarded functions limit (depth + 1) left).bind fun x _ =>
      (evaluate_guarded functions limit (depth + 1) right).bind fun y _ =>
        .unguarded (op.applyTo_ne htree x y)).congr ?_
    rw [reaches_binary h, and_false, or_false]
  | call name arguments =>
    rw [value_call]
    refine ((Guarded.unguarded (functions.find_ne htree name)).bind fun f _ =>
      (evaluateAll_guarded functions limit (depth + 2) arguments).bind fun values _ =>
        .unguarded (f.apply_ne htree values)).congr ?_
    rw [reaches_call h, and_false, or_false, false_or]

theorem evaluateAll_guarded (functions : Registry) (limit depth : Nat) (es : List Expr) :
    Guarded .tooDeep (ReachesAmong functions limit depth es) (valueAll functions es)
      (evaluateAll functions (some limit) depth es) := by
  cases es with
  | nil => exact .transparent nofun (by simp)
  | cons e es =>
    rw [valueAll_cons, evaluateAll]
    refine ((evaluate_guarded functions limit depth e).bind fun x _ =>
      (evaluateAll_guarded functions limit depth es).bind fun xs _ =>
        .unguarded (ok_ne (x :: xs))).congr ?_
    rw [reachesAmong_cons, and_false, or_false]

end

end

end Expr

/-- A limit on nesting never changes a result but by refusing it. A source is refused exactly when
reading it without a limit comes to that depth before any error, and an expression exactly when
evaluating it without a limit comes to a part so deep before anything fails. What is accepted is
accepted under every larger limit too. -/
theorem nesting_guard (limit : Nat) :
    (∀ source,
      Guarded (.grammatical .tooDeep) (Reader.Descends (Tokens.ofSource source) limit)
        (Expr.read none source) (Expr.read (some limit) source) ∧
      (∀ more, Expr.read (some limit) source = .error (.grammatical .tooDeep) ∨
        Expr.read (some (limit + more)) source = Expr.read (some limit) source) ∧
      Problem.ofReadError source (.grammatical .tooDeep) =
        ⟨.parsing, "expression is nested too deeply", source, 0, source.length, true, false⟩) ∧
    ∀ functions e,
      Guarded .tooDeep (Expr.Reaches functions limit 0 e)
        (e.evaluate functions none 0) (e.evaluate functions (some limit) 0) ∧
      (∀ more, e.evaluate functions (some limit) 0 = .error .tooDeep ∨
        e.evaluate functions (some (limit + more)) 0 = e.evaluate functions (some limit) 0) ∧
      ∀ source, Problem.ofEvalError source .tooDeep =
        ⟨.evaluation, "expression is nested too deeply", source, 0, source.length, true,
          false⟩ := by
  constructor
  · intro source
    have hguarded := Reader.read_guarded limit source
    refine ⟨hguarded, fun more => ?_, rfl⟩
    exact hguarded.eq_or_eq (Reader.read_guarded (limit + more) source) fun hdeep =>
      hdeep.mono (Nat.le_add_right ..)
  · intro functions e
    have hguarded := e.evaluate_guarded functions limit 0
    refine ⟨hguarded, fun more => ?_, fun source => rfl⟩
    exact hguarded.eq_or_eq (e.evaluate_guarded functions (limit + more) 0) fun hdeep =>
      hdeep.mono (Nat.le_add_right ..)

end Calculator
