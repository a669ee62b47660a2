import Calculator.Proofs.Expr.Composed
import Calculator.Proofs.Nesting.Evaluation
import Calculator.Proofs.Text.SourceLine
import Calculator.Proofs.Worksheet.Run

/-!
# Calculating under other limits

A calculation is the same under all limits that its nesting reaches in the same way
(`NestedAlike.calculate_eq`). Between any two limits on reading there is a source that tells them
apart: as many signs in front of a number as the smaller one allows (`calculate_signs`).
-/

namespace Calculator

/-- Reading a source comes to both limits or to neither, and so does evaluating what it spells. -/
structure NestedAlike (functions : Registry) (source : String) (limits limits' : NestingLimits) :
    Prop where
  reading : Reader.Descends (Tokens.ofSource source) limits.reading ↔
    Reader.Descends (Tokens.ofSource source) limits'.reading
  evaluation : ∀ e, Expr.read none source = .ok (some e) →
    (e.Reaches functions limits.evaluation 0 ↔ e.Reaches functions limits'.evaluation 0)

namespace NestedAlike

variable {functions : Registry} {source : String} {limits limits' : NestingLimits}

/-- A source whose nesting is not refused under some limits is alike under all that are as large. -/
theorem of_accepted {least : NestingLimits} (hread : Expr.read (some least.reading) source ≠
      .error (.grammatical .tooDeep))
    (hvalue : ∀ e, Expr.read none source = .ok (some e) →
      e.evaluate functions (some least.evaluation) 0 ≠ .error .tooDeep)
    (hreading : least.reading ≤ min limits.reading limits'.reading)
    (hevaluation : least.evaluation ≤ min limits.evaluation limits'.evaluation) :
    NestedAlike functions source limits limits' := by
  have hshallow := (Reader.read_guarded least.reading source).not_reached hread
  rw [Nat.le_min] at hreading hevaluation
  refine ⟨iff_of_false (fun h => hshallow (h.mono hreading.1))
    fun h => hshallow (h.mono hreading.2), fun e he => ?_⟩
  have hshallow := (e.evaluate_guarded functions least.evaluation 0).not_reached (hvalue e he)
  exact iff_of_false (fun h => hshallow (h.mono hevaluation.1))
    fun h => hshallow (h.mono hevaluation.2)

theorem read_eq (h : NestedAlike functions source limits limits') :
    Expr.read (some limits.reading) source = Expr.read (some limits'.reading) source :=
  (Reader.read_guarded limits.reading source).eq_of_iff
    (Reader.read_guarded limits'.reading source) h.reading

theorem evaluate_eq (h : NestedAlike functions source limits limits') {e : Expr}
    (hread : Expr.read (some limits.reading) source = .ok (some e)) :
    e.evaluate functions (some limits.evaluation) 0 =
      e.evaluate functions (some limits'.evaluation) 0 := by
  have hunlimited := (Reader.read_guarded limits.reading source).eq_ok hread
  exact (e.evaluate_guarded functions limits.evaluation 0).eq_of_iff
    (e.evaluate_guarded functions limits'.evaluation 0) (h.evaluation e hunlimited)

theorem calculate_eq (h : NestedAlike functions source limits limits') :
    calculate functions source limits = calculate functions source limits' := by
  have hparse : parse source limits.reading = parse source limits'.reading := by
    rw [parse, parse, h.read_eq]
  cases hfirst : parse source limits.reading with
  | error problem =>
    rw [calculate_of_unread hfirst, calculate_of_unread (hparse ▸ hfirst)]
  | ok tree =>
    cases tree with
    | none => rw [calculate, calculate, ← hparse, hfirst]; rfl
    | some e =>
      rw [calculate_of_read hfirst, calculate_of_read (hparse ▸ hfirst), reduce, reduce,
        h.evaluate_eq (parse_eq_some_iff.mp hfirst)]

end NestedAlike

/-! ## A source between two limits -/

theorem spellsAll_one : ∃ literal value, Cursor.SpellsAll ['1'] [.number literal value] := by
  have hrest : ([] : List Char).all Cursor.isDigitOrPoint = true := rfl
  have hgap : ([] : List Char).all Text.isBlank = true := rfl
  have hdigit : Decimal.isDigit '1' = true := rfl
  exact ⟨_, _, .cons hgap (.number (.intro hdigit hrest .none) rfl) rfl (.nil rfl)⟩

def signsBeforeOne (count : Nat) : String :=
  String.ofList (List.replicate count '-' ++ ['1'])

theorem exists_signed (count : Nat) : ∃ ls e x,
    Cursor.SpellsAll (List.replicate count '-' ++ ['1']) ls ∧ Reader.Derives .factor ls e ∧
      Reader.Phrase.Reaches .factor ls count ∧
      ∀ functions limit depth, depth + count < limit →
        e.evaluate functions (some limit) depth = .ok (.number x) := by
  induction count with
  | zero =>
    obtain ⟨literal, value, hspells⟩ := spellsAll_one
    refine ⟨_, .number value, value, hspells, .number literal value, .operand fun _ _ => rfl, ?_⟩
    intro functions limit depth hdepth
    rw [Expr.evaluate, if_neg (by simpa [tooDeepAt] using hdepth)]
  | succ count ih =>
    obtain ⟨ls, e, x, hspells, hd, hreach, hvalue⟩ := ih
    have hdepth : count + 1 = 1 + count := Nat.add_comm ..
    refine ⟨.operator (.sum .minus) :: ls, .signed .minus e, x.neg, .symbol_cons rfl hspells,
      .signed .minus hd, hdepth ▸ hreach.signed .minus, ?_⟩
    intro functions limit depth hlimit
    rw [Expr.evaluate, if_neg (by simp [tooDeepAt]; omega), hvalue _ _ _ (by omega)]
    rfl

/-- As many signs as one limit on reading allows too few are read under every larger limit. -/
theorem calculate_signs (functions : Registry) {limits larger : NestingLimits}
    (hreading : limits.reading < larger.reading) (hevaluation : limits.reading < larger.evaluation) :
    let source := signsBeforeOne limits.reading
    calculate functions source limits =
        .error (.ofReadError source (.grammatical .tooDeep)) ∧
      ∃ value, calculate functions source larger = .ok (some value) := by
  intro source
  obtain ⟨ls, e, x, hspells, hd, hreach, hvalue⟩ := exists_signed limits.reading
  have hchars : Cursor.SpellsAll source.toList ls := by simpa [source, signsBeforeOne] using hspells
  have hread (limit : Nat) : Expr.read (some limit) source = _ :=
    Reader.read_of_derives (some limit) hchars (.term (.factor hd)) hreach.term.expression
  constructor
  · refine calculate_of_unread ?_
    rw [parse, hread, if_pos (by simp [tooDeepAt])]
  · have hparse : parse source larger.reading = .ok (some e) := by
      rw [parse, hread, if_neg (by simpa [tooDeepAt] using hreading)]
    refine ⟨.number x, ?_⟩
    rw [calculate_of_read hparse, reduce, hvalue _ _ _ (by omega)]
    rfl

end Calculator
