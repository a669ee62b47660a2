import Calculator.Calculation
import Calculator.Proofs.Expr.RoundTrip
import Calculator.Proofs.Trap.Evaluation
import Calculator.Proofs.Trap.Reading

/-!
# Calculations are contained

A calculation made of the partial operations, with the tests and handlers that surround them, is the
calculation: no trap is left over for any source. Its outcomes are a value, nothing for a blank
source, and the errors of the three stages, of which none is internal (`calculate_contained`).
-/

namespace Calculator

open Trapping

/-- A calculation in terms of the partial operations. -/
def Trapping.calculate (functions : Registry) (source : String) (limits : NestingLimits) :
    Trapping Problem (Option Value) := do
  match ← mapError (Problem.ofReadError source) (read limits.reading source) with
  | none => .ok none
  | some e => do
    let value ← mapError (Problem.ofEvalError source) (run functions (some limits.evaluation) e)
    .ok (some value)

/-- The outcomes that the calculation of a source can have. -/
inductive Outcome (source : String) : Except Problem (Option Value) → Prop
  | none : source.toList.all Text.isBlank = true → Outcome source (.ok none)
  | value (value : Value) : source.toList.all Text.isBlank = false →
      Outcome source (.ok (some value))
  | lexing (error : LexError) : source.toList.all Text.isBlank = false →
      Outcome source (.error (.ofLexError source error))
  | parsing (error : ParseError) : source.toList.all Text.isBlank = false →
      Outcome source (.error (.ofParseError source error))
  | evaluation (error : EvalError) : source.toList.all Text.isBlank = false →
      (Problem.ofEvalError source error).internal = false →
      Outcome source (.error (.ofEvalError source error))

/-! ## Traps -/

theorem parse_eq_mapError (source : String) (limit : Nat) :
    parse source limit = (Expr.read (some limit) source).mapError (.ofReadError source) := by
  rw [parse]
  cases Expr.read (some limit) source <;> rfl

theorem reduce_eq_mapError (functions : Registry) (source : String) (e : Expr) (limit : Nat) :
    reduce functions source e limit =
      (e.evaluate functions (some limit) 0).mapError (.ofEvalError source) := by
  rw [reduce]
  cases e.evaluate functions (some limit) 0 <;> rfl

theorem Trapping.calculate_eq (functions : Registry) (source : String) (limits : NestingLimits) :
    Trapping.calculate functions source limits =
      contained (Calculator.calculate functions source limits) := by
  rw [Trapping.calculate, Calculator.calculate, parse_eq_mapError, read_eq, mapError_contained,
    contained_bind]
  congr 1
  funext e
  cases e with
  | none => rfl
  | some e =>
    simp only [run_eq, mapError_contained, reduce_eq_mapError]
    cases e.evaluate functions (some limits.evaluation) 0 <;> rfl

/-! ## The internal error -/

theorem Expr.evaluateAll_ne {functions : Registry} {limit : Option Nat} {depth : Nat}
    {error : EvalError} {es : List Expr}
    (h : ∀ e ∈ es, e.evaluate functions limit depth ≠ .error error) :
    evaluateAll functions limit depth es ≠ .error error := by
  induction es with
  | nil => exact ok_ne _
  | cons e es ih =>
    obtain ⟨he, hes⟩ := List.forall_mem_cons.mp h
    rw [evaluateAll]
    exact bind_ne he fun value => bind_ne (ih hes) fun values => ok_ne _

theorem Expr.Built.evaluate_ne {numbers : Binary64 → Prop} {names : String → Prop} {e : Expr}
    (h : e.Built numbers names) (functions : Registry) (limit : Option Nat) (depth : Nat) :
    e.evaluate functions limit depth ≠ .error .bareNode := by
  have hbare : EvalError.bareNode.isOfTree = true := rfl
  induction h generalizing depth with
  | number | text =>
    rw [evaluate]
    split
    · simp
    · exact ok_ne _
  | signed sign _ ih =>
    rw [evaluate]
    split
    · simp
    · exact bind_ne (ih _) fun value => sign.applyTo_ne hbare value
  | binary op _ _ ihl ihr =>
    rw [evaluate]
    split
    · simp
    · exact bind_ne (ihl _) fun x => bind_ne (ihr _) fun y => op.applyTo_ne hbare x y
  | @call name arguments _ _ ih =>
    rw [evaluate]
    split
    · simp
    · exact bind_ne (functions.find_ne hbare name) fun f =>
        bind_ne (evaluateAll_ne fun e he => ih e he _) fun values => f.apply_ne hbare values

theorem Problem.internal_ofEvalError {source : String} {error : EvalError}
    (h : error ≠ .bareNode) : (ofEvalError source error).internal = false := by
  unfold ofEvalError
  split
  · rfl
  · exact absurd rfl h
  · rfl

/-! ## Outcomes -/

theorem outcome_calculate (functions : Registry) (source : String) (limits : NestingLimits) :
    Outcome source (calculate functions source limits) := by
  have hblank := Reader.read_eq_none_iff (some limits.reading) source
  rw [calculate, parse_eq_mapError]
  cases hread : Expr.read (some limits.reading) source with
  | error error =>
    have hsource : source.toList.all Text.isBlank = false := by
      rw [hread] at hblank
      simpa using hblank
    cases error with
    | lexical error => exact .lexing error hsource
    | grammatical error => exact .parsing error hsource
  | ok e =>
    cases e with
    | none => exact .none (hblank.mp hread)
    | some e =>
      have hsource : source.toList.all Text.isBlank = false := by
        rw [hread] at hblank
        simpa using hblank
      have hne := (Expr.genuine_of_read hread).evaluate_ne functions (some limits.evaluation) 0
      change Outcome source ((reduce functions source e limits.evaluation).map some)
      rw [reduce_eq_mapError]
      cases hvalue : e.evaluate functions (some limits.evaluation) 0 with
      | ok value => exact .value value hsource
      | error error =>
        refine .evaluation error hsource (Problem.internal_ofEvalError ?_)
        rintro rfl
        exact hne hvalue

/-- No trap of a partial operation leaves a calculation, whatever the source and the limits. Its outcome
is a value, nothing exactly for a blank source, or an error of lexing, parsing or evaluation that is
not internal. -/
theorem calculate_contained (functions : Registry) (source : String) (limits : NestingLimits) :
    Trapping.calculate functions source limits = contained (calculate functions source limits) ∧
      Outcome source (calculate functions source limits) :=
  ⟨Trapping.calculate_eq functions source limits, outcome_calculate functions source limits⟩

end Calculator
