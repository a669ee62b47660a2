import Calculator.Calculation
import Calculator.Proofs.Expr.Outcome
import Calculator.Proofs.Expr.Spacing

/-!
# Other blanks between the tokens

`Respaced` relates a source without lexical errors to what other blanks before its tokens and at its
end make of it. Blanks may come in before any token; a gap that stands between two tokens may
change, but not close. What is read from both sources are the same lexemes (`Respaced.spellsAll`), and
reading looks at nothing else of a source but at places (`readAll_of_lexemes`). So the outcomes are
alike: equal results, or problems of the same stage with the same message (`calculate_respaced`).
-/

namespace Calculator

namespace Cursor

/-- What follows the cursor, with other blanks before its tokens and at the end. -/
inductive Respaced : Cursor → List Char → Prop
  | finish {cursor next : Cursor} {gap : List Char} : cursor.next = .finish next →
      gap.all Text.isBlank = true → Respaced cursor gap
  /-- The characters of the token stay. Where blanks stand behind it, some will. -/
  | token {cursor next : Cursor} {token : Token} {old gap cs rest : List Char} :
      cursor.next = .token token next → cursor.rest = old ++ (cs ++ next.rest) →
      token.position = cursor.position + old.length → gap.all Text.isBlank = true →
      (next.rest.head?.any Text.isBlank = true → rest.head?.any Text.isBlank = true) →
      Respaced next rest → Respaced cursor (gap ++ (cs ++ rest))

theorem Respaced.refl {cursor : Cursor} {stop : Nat} (h : cursor.tokens.ending = .ok stop) :
    Respaced cursor cursor.rest := by
  fun_induction tokens cursor with
  | case1 cursor token next hnext ih =>
    obtain ⟨gap, cs, htook⟩ := took_of_next hnext
    have := Respaced.token hnext htook.rest htook.position htook.blank id (ih h)
    rwa [← htook.rest] at this
  | case2 cursor next hnext => exact .finish hnext (all_isBlank_of_next_finish hnext).1
  | case3 => cases h

theorem Took.unique {cursor next : Cursor} {token : Token} {gap cs old spelled : List Char}
    (h : Took cursor token next gap cs) (hrest : cursor.rest = old ++ (spelled ++ next.rest))
    (hposition : token.position = cursor.position + old.length) : old = gap ∧ spelled = cs := by
  have hlength : old.length = gap.length := by
    have := h.position
    omega
  obtain ⟨hgap, happ⟩ := List.append_inj (hrest.symm.trans h.rest) hlength
  exact ⟨hgap, List.append_cancel_right happ⟩

theorem Respaced.head?_eq {cursor : Cursor} {cs : List Char} (h : Respaced cursor cs)
    (hnew : cs.head?.any Text.isBlank = false) (hold : cursor.rest.head?.any Text.isBlank = false) :
    cs.head? = cursor.rest.head? := by
  have hnil : ∀ gap rest : List Char, gap.all Text.isBlank = true →
      (gap ++ rest).head?.any Text.isBlank = false → gap = [] := by
    intro gap rest hgap hhead
    cases gap with
    | nil => rfl
    | cons c gap => simp_all
  cases h with
  | @finish _ _ gap hnext hgap =>
    have hblank := (all_isBlank_of_next_finish hnext).1
    rw [hnil cs [] hgap (by simpa using hnew), hnil cursor.rest [] hblank (by simpa using hold)]
  | @token _ _ _ old gap spelled rest hnext hrest hposition hgap _ _ =>
    obtain ⟨gap', cs', htook⟩ := took_of_next hnext
    obtain ⟨rfl, rfl⟩ := htook.unique hrest hposition
    rw [hrest] at hold ⊢
    obtain rfl := hnil gap _ hgap hnew
    obtain rfl := hnil old _ htook.blank hold
    cases spelled with
    | nil => exact absurd rfl htook.spells.ne_nil
    | cons => rfl

theorem Respaced.spellsAll {cursor : Cursor} {cs : List Char} (h : Respaced cursor cs) :
    SpellsAll cs cursor.tokens.lexemes := by
  induction h with
  | finish hnext hgap =>
    rw [tokens_of_next_finish hnext]
    exact .nil hgap
  | @token cursor next token old gap spelled rest hnext hrest hposition hgap hblank hrespaced ih =>
    obtain ⟨gap', cs', htook⟩ := took_of_next hnext
    obtain ⟨rfl, rfl⟩ := htook.unique hrest hposition
    rw [tokens_of_next_token hnext, Tokens.lexemes_cons]
    refine .cons hgap htook.spells ?_ ih
    cases hnew : rest.head?.any Text.isBlank with
    | true =>
      cases rest with
      | nil => cases hnew
      | cons c rest => exact Lexeme.mayPrecede_of_blank _ _ (by simpa using hnew)
    | false =>
      have hold : next.rest.head?.any Text.isBlank = false := by
        rw [Bool.eq_false_iff]
        intro h
        rw [hblank h] at hnew
        cases hnew
      exact Lexeme.mayPrecede_of_head? (hrespaced.head?_eq hnew hold) htook.ends

end Cursor

/-! ## Reading -/

namespace Reader

/-- The same result, or errors that differ at most in places. -/
inductive SameReading : Except ReadError (Option Expr) → Except ReadError (Option Expr) → Prop
  | ok (e : Option Expr) : SameReading (.ok e) (.ok e)
  | error {error error' : ParseError} : error.message = error'.message →
      SameReading (.error (.grammatical error)) (.error (.grammatical error'))

theorem State.Halts.of_lexemes {limit : Option Nat} {state : State} {tokens tokens' : Tokens}
    {stop stop' : Nat} {result : Except ReadError (Option Expr)}
    (hending : tokens.ending = .ok stop) (hending' : tokens'.ending = .ok stop')
    (hlexemes : tokens'.lexemes = tokens.lexemes) (h : state.Halts limit tokens result) :
    ∃ result', state.Halts limit tokens' result' ∧ SameReading result result' := by
  cases h with
  | finished position he =>
    obtain rfl := Tokens.eq_finish hending' hlexemes
    exact ⟨_, .finished _ he, .ok _⟩
  | unfinished position he =>
    obtain rfl := Tokens.eq_finish hending' hlexemes
    exact ⟨_, .unfinished _ he, .error rfl⟩
  | lexical => cases hending
  | refused token ahead hstep =>
    obtain ⟨token', ahead', rfl, htoken⟩ := Tokens.eq_cons hending' hlexemes
    rw [← htoken] at hstep
    exact ⟨_, .refused token' ahead' hstep, .error (by simp only [ParseError.message, htoken])⟩
  | tooDeep token ahead hstep hdeep =>
    obtain ⟨token', ahead', rfl, htoken⟩ := Tokens.eq_cons hending' hlexemes
    rw [← htoken] at hstep
    exact ⟨_, .tooDeep token' ahead' hstep hdeep, .error rfl⟩

/-- Reading looks at nothing but lexemes, and at places only to report them. -/
theorem readAll_of_lexemes {tokens tokens' : Tokens} {stop stop' : Nat} (limit : Option Nat)
    (hending : tokens.ending = .ok stop) (hending' : tokens'.ending = .ok stop')
    (hlexemes : tokens'.lexemes = tokens.lexemes) :
    SameReading (readAll limit tokens).1 (readAll limit tokens').1 := by
  by_cases hblank : tokens.lexemes = []
  · rw [Tokens.eq_finish hending hblank, Tokens.eq_finish hending' (hlexemes.trans hblank)]
    exact .ok none
  · have hne : ∀ t : Tokens, t.lexemes = tokens.lexemes → ∀ position, t ≠ .finish position := by
      rintro _ h position rfl
      exact hblank h.symm
    obtain ⟨front, rest, last, rfl, hwalk, hhalts⟩ := readAll_halts limit (hne _ rfl)
    rw [Tokens.lexemes_after] at hlexemes
    obtain ⟨front', rest', rfl, hfront, hrest, hending'⟩ := Tokens.exists_after hending' hlexemes
    rw [Tokens.ending_after] at hending
    obtain ⟨result', hhalts', hsame⟩ := hhalts.of_lexemes hending hending' hrest
    rw [← hfront] at hwalk
    rw [readAll_of_halts (hne _ (by simp [hfront, hrest])) hwalk hhalts']
    exact hsame

end Reader

/-! ## Calculating -/

inductive Alike {α : Type} : Except Problem α → Except Problem α → Prop
  | ok (a : α) : Alike (.ok a) (.ok a)
  | error {problem problem' : Problem} : problem.stage = problem'.stage →
      problem.message = problem'.message → Alike (.error problem) (.error problem')

theorem Alike.map {α β : Type} {x x' : Except Problem α} (f : α → β) (h : Alike x x') :
    Alike (x.map f) (x'.map f) := by
  cases h with
  | ok a => exact .ok (f a)
  | error hstage hmessage => exact .error hstage hmessage

theorem parse_alike {source source' : String} {limit : Nat}
    (h : Reader.SameReading (Expr.read (some limit) source) (Expr.read (some limit) source')) :
    Alike (parse source limit) (parse source' limit) ∧
      ∀ problem, parse source limit = .error problem → problem.stage = .parsing := by
  unfold parse
  generalize Expr.read (some limit) source = read at h ⊢
  generalize Expr.read (some limit) source' = read' at h ⊢
  cases h with
  | ok e => exact ⟨.ok e, nofun⟩
  | error hmessage =>
    refine ⟨.error rfl hmessage, ?_⟩
    rintro _ ⟨⟩
    rfl

theorem Problem.stage_ofEvalError (source : String) (error : EvalError) :
    (ofEvalError source error).stage = .evaluation := by
  cases error <;> rfl

theorem Problem.message_ofEvalError (source : String) (error : EvalError) :
    (ofEvalError source error).message = error.message := by
  cases error <;> rfl

theorem reduce_alike (functions : Registry) (source source' : String) (e : Expr) (limit : Nat) :
    Alike (reduce functions source e limit) (reduce functions source' e limit) := by
  unfold reduce
  split
  · exact .ok _
  · refine .error ?_ ?_
    · rw [Problem.stage_ofEvalError, Problem.stage_ofEvalError]
    · rw [Problem.message_ofEvalError, Problem.message_ofEvalError]

theorem calculate_alike (functions : Registry) {source source' : String} {limits : NestingLimits}
    (h : Alike (parse source limits.reading) (parse source' limits.reading)) :
    Alike (calculate functions source limits) (calculate functions source' limits) := by
  unfold calculate
  generalize parse source limits.reading = parsed at h ⊢
  generalize parse source' limits.reading = parsed' at h ⊢
  cases h with
  | error hstage hmessage => exact .error hstage hmessage
  | ok e =>
    cases e with
    | none => exact .ok none
    | some e => exact (reduce_alike functions source source' e limits.evaluation).map some

/-! ## Other blanks -/

/-- With other blanks a source has the same lexemes and no lexical error, it is parsed into the same
tree or refused with the same message, and its value or what is wrong with it is the same. -/
theorem calculate_respaced (functions : Registry) (limits : NestingLimits) (source : String)
    (stop : Nat) (hlex : (Tokens.ofSource source).ending = .ok stop) :
    (Cursor.start source).Respaced source.toList ∧
    ∀ source' : String, (Cursor.start source).Respaced source'.toList →
      (Tokens.ofSource source').lexemes = (Tokens.ofSource source).lexemes ∧
      (Tokens.ofSource source').ending = .ok source'.length ∧
      Alike (parse source limits.reading) (parse source' limits.reading) ∧
      (∀ problem, parse source limits.reading = .error problem → problem.stage = .parsing) ∧
      Alike (calculate functions source limits) (calculate functions source' limits) := by
  refine ⟨Cursor.Respaced.refl hlex, fun source' h => ?_⟩
  have hrest : (Cursor.start source').rest = source'.toList := rfl
  have hspells := h.spellsAll
  rw [← hrest, Cursor.spellsAll_iff] at hspells
  obtain ⟨hlexemes, stop', hending⟩ := hspells
  change (Tokens.ofSource source').ending = .ok stop' at hending
  obtain ⟨hparse, hstage⟩ :=
    parse_alike (Reader.readAll_of_lexemes (some limits.reading) hlex hending hlexemes)
  refine ⟨hlexemes, ?_, hparse, hstage, calculate_alike functions hparse⟩
  rw [hending, Tokens.stop_of_ending hending]

/-- The exponent does not run on into the name, whatever the blank between them. -/
theorem calculate_respaced_exponent :
    (Tokens.ofSource "1e5 e").ending = .ok 5 ∧
    (Cursor.start "1e5 e").Respaced " 1e5\t\ne ".toList ∧
    Alike (parse "1e5 e" nestingLimit) (parse " 1e5\t\ne " nestingLimit) ∧
    Alike (calculate .builtins "1e5 e" .usual) (calculate .builtins " 1e5\t\ne " .usual) := by
  have hlex : (Tokens.ofSource "1e5 e").ending = .ok 5 :=
    Reader.eq_ok_of_toOption (by decide +kernel)
  let last : Cursor := ⟨5, []⟩
  let middle : Cursor := ⟨3, [' ', 'e']⟩
  have hfinish : last.next = .finish last := by decide +kernel
  have hname : middle.next = .token ⟨.name "e", 4⟩ last := by decide +kernel
  have hmiddle : middle.rest = [' '] ++ (['e'] ++ last.rest) := rfl
  have hnumber : (Cursor.start "1e5 e").next = .token ⟨.number "1e5" (.ofInt 100000), 0⟩ middle := by
    decide +kernel
  have hstart : (Cursor.start "1e5 e").rest = [] ++ ("1e5".toList ++ middle.rest) := rfl
  have hlast : last.Respaced [' '] := .finish hfinish rfl
  have hrest : middle.Respaced (['\t', '\n'] ++ (['e'] ++ [' '])) :=
    .token hname hmiddle rfl rfl nofun hlast
  have hrespaced : (Cursor.start "1e5 e").Respaced ([' '] ++ ("1e5".toList ++ "\t\ne ".toList)) :=
    .token hnumber hstart rfl rfl (fun _ => rfl) hrest
  obtain ⟨-, -, hparse, -, hvalue⟩ :=
    (calculate_respaced .builtins .usual _ _ hlex).2 " 1e5\t\ne " hrespaced
  exact ⟨hlex, hrespaced, hparse, hvalue⟩

end Calculator
