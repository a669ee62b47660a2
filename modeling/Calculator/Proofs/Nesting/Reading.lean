import Mathlib.Data.List.Basic
import Calculator.Problem
import Calculator.Proofs.Expr.Outcome

/-!
# The nesting guard in reading

`Guarded` compares a computation that has a limit with the one that has none: it is refused where
the limit is reached, and otherwise it is the same. Reading reaches a depth when the tokens in front
of the first error, lexical or of grammar, lead to it (`Reader.Descends`), and that alone decides
whether a source is refused (`Reader.read_guarded`).
-/

namespace Calculator

/-! ## Guards -/

/-- What a computation with a limit comes to, beside the same computation without one. -/
inductive Guarded {ε α : Type} (tooDeep : ε) (reached : Prop) (unlimited : Except ε α) :
    Except ε α → Prop
  | refused (deep : reached) : Guarded tooDeep reached unlimited (.error tooDeep)
  | transparent (shallow : ¬ reached) (accepted : unlimited ≠ .error tooDeep) :
      Guarded tooDeep reached unlimited unlimited

namespace Guarded

variable {ε α β : Type} {tooDeep : ε} {reached later : Prop}

theorem congr {unlimited result : Except ε α} (h : Guarded tooDeep reached unlimited result)
    (hiff : later ↔ reached) : Guarded tooDeep later unlimited result := by
  cases h with
  | refused hdeep => exact .refused (hiff.mpr hdeep)
  | transparent hshallow haccepted => exact .transparent (mt hiff.mp hshallow) haccepted

theorem unguarded {x : Except ε α} (h : x ≠ .error tooDeep) : Guarded tooDeep False x x :=
  .transparent id h

/-- The second of two steps counts only when the first has a result. -/
theorem bind {x x' : Except ε α} {f f' : α → Except ε β} (hx : Guarded tooDeep reached x x')
    (hf : ∀ a, x = .ok a → Guarded tooDeep later (f a) (f' a)) :
    Guarded tooDeep (reached ∨ (∃ a, x = .ok a) ∧ later) (x >>= f) (x' >>= f') := by
  cases hx with
  | refused hdeep => exact .refused (.inl hdeep)
  | transparent hshallow haccepted =>
    cases x with
    | error error =>
      refine .transparent ?_ fun h => haccepted (congrArg Except.error (Except.error.inj h))
      rintro (hdeep | ⟨⟨a, ha⟩, -⟩)
      · exact hshallow hdeep
      · cases ha
    | ok a =>
      change Guarded _ _ (f a) (f' a)
      refine (hf a rfl).congr ⟨?_, fun hlater => .inr ⟨⟨a, rfl⟩, hlater⟩⟩
      rintro (hdeep | ⟨-, hlater⟩)
      · exact absurd hdeep hshallow
      · exact hlater

theorem eq_or_eq {unlimited result result' : Except ε α}
    (h : Guarded tooDeep reached unlimited result) (h' : Guarded tooDeep later unlimited result')
    (hmono : later → reached) : result = .error tooDeep ∨ result' = result := by
  cases h with
  | refused => exact .inl rfl
  | transparent hshallow =>
    cases h' with
    | refused hdeep => exact absurd (hmono hdeep) hshallow
    | transparent => exact .inr rfl

theorem eq_ok {unlimited result : Except ε α} (h : Guarded tooDeep reached unlimited result)
    {a : α} (hresult : result = .ok a) : unlimited = .ok a := by
  cases h with
  | refused => cases hresult
  | transparent => exact hresult

theorem not_reached {unlimited result : Except ε α}
    (h : Guarded tooDeep reached unlimited result) (hresult : result ≠ .error tooDeep) :
    ¬ reached := by
  cases h with
  | refused => exact absurd rfl hresult
  | transparent hshallow => exact hshallow

theorem eq_of_iff {unlimited result result' : Except ε α}
    (h : Guarded tooDeep reached unlimited result) (h' : Guarded tooDeep later unlimited result')
    (hiff : reached ↔ later) : result = result' := by
  cases h with
  | refused hdeep =>
    cases h' with
    | refused => rfl
    | transparent hshallow => exact absurd (hiff.mp hdeep) hshallow
  | transparent hshallow =>
    cases h' with
    | refused hdeep => exact absurd (hiff.mpr hdeep) hshallow
    | transparent => rfl

end Guarded

namespace Reader

/-- Reading without a limit comes to a depth: the first lexemes, up to some one of those in front of
the first error, are accepted and lead to it. A sign, a parenthesis or a call counts as a whole level as
soon as its own token is accepted, whether or not what follows can be lexed, and a call whether or not
it has an argument. -/
def Descends (tokens : Tokens) (depth : Nat) : Prop :=
  ∃ front rest state, tokens.lexemes = front ++ rest ∧ front ≠ [] ∧
    State.start.walk none front = some state ∧ depth ≤ state.depth

theorem Descends.mono {tokens : Tokens} {depth depth' : Nat} (h : Descends tokens depth')
    (hle : depth ≤ depth') : Descends tokens depth := by
  obtain ⟨front, rest, state, hlexemes, hne, hwalk, hdepth⟩ := h
  exact ⟨front, rest, state, hlexemes, hne, hwalk, Nat.le_trans hle hdepth⟩

theorem State.depth_of_walk {limit : Option Nat} {state last : State} {ls : List Lexeme}
    (hne : ls ≠ []) (h : state.walk limit ls = some last) : tooDeepAt limit last.depth = false := by
  obtain ⟨front, l, rfl⟩ := (List.eq_nil_or_concat' ls).resolve_left hne
  rw [walk_append, Option.bind_eq_some_iff] at h
  obtain ⟨mid, -, hlast⟩ := h
  simp only [walk, Option.bind_eq_some_iff] at hlast
  obtain ⟨next, -, hnext⟩ := hlast
  split at hnext
  · cases hnext
  · next hdepth =>
    cases hnext
    exact Bool.eq_false_iff.mpr hdepth

theorem State.Halts.limit_or_unlimited {limit : Nat} {state : State} {tokens : Tokens}
    {result : Except ReadError (Option Expr)} (h : state.Halts (some limit) tokens result) :
    (∃ token ahead next, tokens = .cons token ahead ∧ state.step token.lexeme = some next ∧
      limit ≤ next.depth ∧ result = .error (.grammatical .tooDeep)) ∨
    state.Halts none tokens result ∧ result ≠ .error (.grammatical .tooDeep) ∧
      ∀ l ls, tokens.lexemes = l :: ls → state.step l = none := by
  cases h with
  | finished position he => exact .inr ⟨.finished position he, by simp, by simp⟩
  | unfinished position he => exact .inr ⟨.unfinished position he, by simp, by simp⟩
  | lexical error resume => exact .inr ⟨.lexical error resume, by simp, by simp⟩
  | refused token ahead hstep =>
    refine .inr ⟨.refused token ahead hstep, by simp, ?_⟩
    rintro l ls ⟨⟩
    exact hstep
  | tooDeep token ahead hstep hdepth =>
    exact .inl ⟨token, ahead, _, rfl, hstep, by simpa [tooDeepAt] using hdepth, rfl⟩

theorem not_descends {limit : Nat} {front : List Token} {rest : Tokens} {last : State}
    (hwalk : State.start.walk (some limit) (front.map Token.lexeme) = some last)
    (hend : ∀ l ls, rest.lexemes = l :: ls → last.step l = none) :
    ¬ Descends (.after front rest) limit := by
  rintro ⟨part, more, state, hlexemes, hne, hpart, hdepth⟩
  rw [Tokens.lexemes_after] at hlexemes
  have hdeep : tooDeepAt (some limit) state.depth = true := by simpa [tooDeepAt] using hdepth
  have hshallow : ∀ behind, front.map Token.lexeme = part ++ behind → False := by
    intro behind hfront
    rw [hfront, State.walk_append, Option.bind_eq_some_iff] at hwalk
    obtain ⟨mid, hmid, -⟩ := hwalk
    obtain rfl : mid = state :=
      Option.some.inj ((State.walk_none_of_walk hmid).symm.trans hpart)
    rw [State.depth_of_walk hne hmid] at hdeep
    cases hdeep
  rcases List.append_eq_append_iff.mp hlexemes with ⟨behind, hpart', hrest⟩ | ⟨behind, hfront, -⟩
  · cases behind with
    | nil => exact hshallow [] (by simpa using hpart'.symm)
    | cons l ls =>
      rw [hpart', State.walk_append_of_eq (State.walk_none_of_walk hwalk), State.walk_none_cons,
        hend l (ls ++ more) hrest] at hpart
      cases hpart
  · exact hshallow behind hfront

theorem readAll_guarded (limit : Nat) (tokens : Tokens) :
    Guarded (.grammatical .tooDeep) (Descends tokens limit) (readAll none tokens).1
      (readAll (some limit) tokens).1 := by
  by_cases hblank : ∃ position, tokens = .finish position
  · obtain ⟨position, rfl⟩ := hblank
    refine .transparent ?_ (by simp [readAll])
    rintro ⟨front, rest, state, hlexemes, hne, -⟩
    rw [Tokens.lexemes_finish] at hlexemes
    exact hne (List.nil_eq_append_iff.mp hlexemes).1
  · have hne : ∀ position, tokens ≠ .finish position := fun position h => hblank ⟨position, h⟩
    obtain ⟨front, rest, last, rfl, hwalk, hhalts⟩ := readAll_halts (some limit) hne
    have hunlimited := State.walk_none_of_walk hwalk
    generalize (readAll (some limit) (.after front rest)).1 = result at hhalts
    rcases hhalts.limit_or_unlimited with
      ⟨token, ahead, next, rfl, hstep, hdepth, rfl⟩ | ⟨hhalts, haccepted, hend⟩
    · refine .refused ⟨front.map Token.lexeme ++ [token.lexeme], ahead.lexemes, next, ?_, ?_, ?_,
        hdepth⟩
      · simp
      · simp
      · rw [State.walk_append_of_eq hunlimited, State.walk_none_cons, hstep]
        rfl
    · obtain rfl := readAll_of_halts hne hunlimited hhalts
      exact .transparent (not_descends hwalk hend) haccepted

theorem read_guarded (limit : Nat) (source : String) :
    Guarded (.grammatical .tooDeep) (Descends (Tokens.ofSource source) limit)
      (Expr.read none source) (Expr.read (some limit) source) :=
  readAll_guarded limit (Tokens.ofSource source)

end Reader

end Calculator
