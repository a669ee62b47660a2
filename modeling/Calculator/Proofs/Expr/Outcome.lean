import Calculator.Proofs.Expr.Walk
import Calculator.Proofs.Token.Stream

/-!
# How reading ends

Reading is a walk up to the token, the end or the lexical error that ends it. `State.Halts` lists
the ways in which a state can end the reading of what is ahead. There are no others
(`readAll_halts`), and each decides the result alone (`readAll_of_halts`), whatever stands behind the
token that ends the reading.
-/

namespace Calculator.Reader

/-! ## Outcomes found by evaluation -/

theorem eq_ok_of_toOption {ε α : Type} {x : Except ε α} {a : α} (h : x.toOption = some a) :
    x = .ok a := by
  cases x <;> cases h
  rfl

theorem eq_error_of_decide {ε α : Type} [DecidableEq ε] {x : Except ε α} {e : ε}
    (h : (match x with | .error e' => decide (e' = e) | .ok _ => false) = true) : x = .error e := by
  cases x with
  | ok => cases h
  | error => rw [of_decide_eq_true h]

/-! ## Endings -/

def whole : Reading Expr → Except ReadError (Option Expr)
  | (.error error, _) => .error error
  | (.ok _, .cons token _) => .error (.grammatical (.unexpected token none))
  | (.ok e, _) => .ok (some e)

theorem readAll_finish (limit : Option Nat) (position : Nat) :
    readAll limit (.finish position) = (.ok none, .finish position) := rfl

theorem readAll_eq_whole {tokens : Tokens} (limit : Option Nat)
    (h : ∀ position, tokens ≠ .finish position) :
    (readAll limit tokens).1 = whole (State.start.run .expression limit tokens) := by
  unfold readAll
  split
  · exact absurd rfl (h _)
  · split <;> simp_all [whole]

theorem whole_ne_none (reading : Reading Expr) : whole reading ≠ .ok none := by
  unfold whole
  split <;> simp

theorem read_eq_none_iff (limit : Option Nat) (source : String) :
    Expr.read limit source = .ok none ↔ source.toList.all Text.isBlank = true := by
  have hrest : (Cursor.start source).rest = source.toList := rfl
  constructor
  · intro h
    cases htokens : Tokens.ofSource source with
    | finish position =>
      have hspells : Cursor.SpellsAll (Cursor.start source).rest [] := by
        refine Cursor.spellsAll_iff.mpr ⟨?_, position, ?_⟩ <;>
          rw [← Tokens.ofSource, htokens] <;> rfl
      rw [hrest] at hspells
      generalize source.toList = cs at hspells
      cases hspells with
      | nil hblank => exact hblank
    | fail | cons =>
      rw [Expr.read, readAll_eq_whole limit (by simp [htokens])] at h
      exact absurd h (whole_ne_none _)
  · intro h
    have hfinish := Cursor.tokens_of_next_finish (Cursor.next_of_blank (hrest ▸ h))
    rw [Expr.read, Tokens.ofSource, hfinish, readAll_finish]

/-- The ways in which a state ends the reading of what is ahead. -/
inductive State.Halts (limit : Option Nat) (state : State) :
    Tokens → Except ReadError (Option Expr) → Prop
  | finished {e} (position : Nat) : state.phrase? = some e →
      State.Halts limit state (.finish position) (.ok (some e))
  | unfinished (position : Nat) : state.phrase? = none →
      State.Halts limit state (.finish position)
        (.error (.grammatical (.unexpectedEnd position state.expected)))
  | lexical (error : LexError) (resume : Cursor) :
      State.Halts limit state (.fail error resume) (.error (.lexical error))
  | refused (token : Token) (ahead : Tokens) : state.step token.lexeme = none →
      State.Halts limit state (.cons token ahead)
        (.error (.grammatical (.unexpected token state.expected)))
  | tooDeep {next} (token : Token) (ahead : Tokens) : state.step token.lexeme = some next →
      tooDeepAt limit next.depth = true →
      State.Halts limit state (.cons token ahead) (.error (.grammatical .tooDeep))

theorem State.refuses_of_phrase? {state : State} {e : Expr} {l : Lexeme}
    (h : (state.phrase?.filter fun _ => !Phrase.goesOn .expression l) = some e) :
    state.step l = none ∧ state.expected = none := by
  rw [Option.filter_eq_some_iff] at h
  obtain ⟨he, hstop⟩ := h
  unfold State.phrase? at he
  split at he
  · cases l with
    | operator => simp [Phrase.goesOn] at hstop
    | _ => exact ⟨rfl, rfl⟩
  · cases he

theorem State.walk_halts (limit : Option Nat) (state : State) (tokens : Tokens) :
    ∃ front rest last result, tokens = .after front rest ∧
      state.walk limit (front.map Token.lexeme) = some last ∧ last.Halts limit rest result := by
  induction tokens generalizing state with
  | finish position =>
    cases he : state.phrase? with
    | none => exact ⟨[], _, state, _, rfl, rfl, .unfinished position he⟩
    | some e => exact ⟨[], _, state, _, rfl, rfl, .finished position he⟩
  | fail error resume => exact ⟨[], _, state, _, rfl, rfl, .lexical error resume⟩
  | cons token ahead ih =>
    cases hstep : state.step token.lexeme with
    | none => exact ⟨[], _, state, _, rfl, rfl, .refused token ahead hstep⟩
    | some next =>
      cases hdepth : tooDeepAt limit next.depth with
      | true => exact ⟨[], _, state, _, rfl, rfl, .tooDeep token ahead hstep hdepth⟩
      | false =>
        obtain ⟨front, rest, last, result, rfl, hwalk, hhalts⟩ := ih next
        have hfront : state.walk limit ((token :: front).map Token.lexeme) = some last := by
          simp [walk, hstep, hdepth, hwalk]
        exact ⟨token :: front, rest, last, result, rfl, hfront, hhalts⟩

theorem State.run_of_halts {limit : Option Nat} {state last : State} {front : List Token}
    {rest : Tokens} {result : Except ReadError (Option Expr)}
    (hwalk : state.walk limit (front.map Token.lexeme) = some last)
    (h : last.Halts limit rest result) :
    whole (state.run .expression limit (.after front rest)) = result := by
  induction front generalizing state with
  | nil =>
    cases hwalk
    cases h with
    | finished position he => simp [State.run, he, whole]
    | unfinished position he => simp [State.run, he, whole]
    | lexical error resume => rfl
    | refused token ahead hstep =>
      simp only [Tokens.after_nil, State.run]
      split
      · next he => rw [(State.refuses_of_phrase? he).2, whole]
      · rw [hstep, whole]
    | tooDeep token ahead hstep hdepth =>
      simp only [Tokens.after_nil, State.run]
      split
      · next he => rw [(State.refuses_of_phrase? he).1] at hstep; cases hstep
      · simp [hstep, hdepth, whole]
  | cons token front ih =>
    simp only [List.map_cons, State.walk, Option.bind_eq_some_iff] at hwalk
    obtain ⟨next, hstep, hwalk⟩ := hwalk
    split at hwalk
    · cases hwalk
    · next hdepth =>
      have hnext := ih hwalk
      simp only [Tokens.after_cons, State.run]
      split
      · next he => rw [(State.refuses_of_phrase? he).1] at hstep; cases hstep
      · rw [hstep]
        simp only [hdepth, Bool.false_eq_true, ↓reduceIte]
        split
        · next hahead =>
          rw [hahead] at hnext
          exact hnext
        · exact hnext

/-- A source that is not blank is read by a walk and one of the ways to end it. -/
theorem readAll_halts {tokens : Tokens} (limit : Option Nat)
    (h : ∀ position, tokens ≠ .finish position) :
    ∃ front rest last, tokens = .after front rest ∧
      State.start.walk limit (front.map Token.lexeme) = some last ∧
      last.Halts limit rest (readAll limit tokens).1 := by
  obtain ⟨front, rest, last, result, rfl, hwalk, hhalts⟩ := State.start.walk_halts limit tokens
  rw [readAll_eq_whole limit h, State.run_of_halts hwalk hhalts]
  exact ⟨front, rest, last, rfl, hwalk, hhalts⟩

theorem readAll_of_halts {limit : Option Nat} {front : List Token} {rest : Tokens} {last : State}
    {result : Except ReadError (Option Expr)}
    (h : ∀ position, Tokens.after front rest ≠ .finish position)
    (hwalk : State.start.walk limit (front.map Token.lexeme) = some last)
    (hhalts : last.Halts limit rest result) :
    (readAll limit (.after front rest)).1 = result := by
  rw [readAll_eq_whole limit h, State.run_of_halts hwalk hhalts]

theorem read_halts {limit : Option Nat} {source : String}
    (h : Expr.read limit source ≠ .ok none) :
    ∃ front rest last, Tokens.ofSource source = .after front rest ∧
      State.start.walk limit (front.map Token.lexeme) = some last ∧
      last.Halts limit rest (Expr.read limit source) := by
  refine readAll_halts limit fun position hfinish => h ?_
  rw [Expr.read, hfinish, readAll_finish]

theorem read_eq_some_iff {limit : Option Nat} {source : String} {e : Expr} :
    Expr.read limit source = .ok (some e) ↔
      ∃ ls last, Cursor.SpellsAll source.toList ls ∧ State.start.walk limit ls = some last ∧
        last.phrase? = some e := by
  constructor
  · intro h
    have hne : Expr.read limit source ≠ .ok none := by simp [h]
    obtain ⟨front, rest, last, htokens, hwalk, hhalts⟩ := read_halts hne
    rw [h] at hhalts
    cases hhalts with
    | finished position he =>
      refine ⟨_, last, Tokens.spellsAll_ofSource.mpr ⟨?_, position, ?_⟩, hwalk, he⟩
      · simp [htokens]
      · simp [htokens, Tokens.ending]
  · rintro ⟨ls, last, hspells, hwalk, he⟩
    obtain ⟨hlexemes, stop, hending⟩ := Tokens.spellsAll_ofSource.mp hspells
    have hsplit : (Tokens.ofSource source).lexemes = ls ++ [] := by simp [hlexemes]
    obtain ⟨front, rest, htokens, rfl, hnil, hrest⟩ := Tokens.exists_after hending hsplit
    obtain rfl := Tokens.eq_finish hrest hnil
    have hne : ∀ position, Tokens.after front (.finish stop) ≠ .finish position := by
      intro position h
      cases front with
      | nil =>
        cases hwalk
        cases he
      | cons => cases h
    rw [Expr.read, htokens, readAll_of_halts hne hwalk (.finished stop he)]

theorem derives_of_read {limit : Option Nat} {source : String} {e : Expr}
    (h : Expr.read limit source = .ok (some e)) :
    (∃ stop, (Tokens.ofSource source).ending = .ok stop) ∧
      Derives .expression (Tokens.ofSource source).lexemes e := by
  obtain ⟨ls, last, hspells, hwalk, he⟩ := read_eq_some_iff.mp h
  obtain ⟨rfl, hending⟩ := Tokens.spellsAll_ofSource.mp hspells
  exact ⟨hending, derives_iff_walk.mpr ⟨last, State.walk_none_of_walk hwalk, he⟩⟩

end Calculator.Reader
