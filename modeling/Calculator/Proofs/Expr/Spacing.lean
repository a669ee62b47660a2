import Calculator.Proofs.Expr.Walk
import Calculator.Proofs.Token.Stream

/-!
# Lexemes as source text

Between the lexemes that the reader accepts one after the other blanks may stand anywhere, and none
have to (`spellsAll_spaced`): what the reader accepts behind a number or a name always ends it.
-/

namespace Calculator

def Lexeme.spelling : Lexeme → List Char
  | .text content => '"' :: (content.toList ++ ['"'])
  | l => l.shown.toList

def spaced (gaps : Nat → List Char) : List Lexeme → List Char
  | [] => gaps 0
  | l :: ls => gaps 0 ++ (l.spelling ++ spaced (fun n => gaps (n + 1)) ls)

/-! ## Neighbours -/

/-- Whether the second lexeme may stand right behind the first. -/
def Lexeme.joins : Lexeme → Lexeme → Bool
  | .number .., .operator _ | .number .., .closeParen | .number .., .comma => true
  | .number .., _ => false
  | .name _, .openParen => true
  | .name _, _ => false
  | _, _ => true

theorem Lexeme.mayPrecede_nil (l : Lexeme) : l.mayPrecede [] = true := by
  cases l <;> rfl

theorem Lexeme.mayPrecede_of_blank (l : Lexeme) {c : Char} (rest : List Char)
    (h : Text.isBlank c = true) : l.mayPrecede (c :: rest) = true := by
  have hnumber : Cursor.mayFollowNumber c = true := by simp [Cursor.mayFollowNumber, h]
  exact l.mayPrecede_cons rest hnumber (Cursor.isNamePart_of_isBlank h)

theorem Lexeme.mayPrecede_of_joins {l l' : Lexeme} (h : l.joins l' = true) (rest : List Char) :
    l.mayPrecede (l'.spelling ++ rest) = true := by
  cases l with
  | number =>
    cases l' with
    | operator op => cases op with
      | sum sign => cases sign <;> rfl
      | product scaling => cases scaling <;> rfl
    | closeParen | comma => rfl
    | openParen | number | text | name => cases h
  | name =>
    cases l' with
    | openParen =>
      have hstop : Cursor.isNamePart '(' = false := by decide +kernel
      simp [mayPrecede, spelling, shown, hstop]
    | operator | closeParen | comma | number | text | name => cases h
  | operator | openParen | closeParen | comma | text => rfl

namespace Reader

theorem State.step_number {state next : State} {literal : String} {value : Binary64}
    (h : state.step (.number literal value) = some next) :
    ∃ value sum outer, next = .operator value sum outer := by
  cases state <;> cases h <;> exact ⟨_, _, _, rfl⟩

theorem State.step_name {state next : State} {name : String}
    (h : state.step (.name name) = some next) :
    ∃ pending outer, next = .callee name pending outer := by
  cases state <;> cases h <;> exact ⟨_, _, rfl⟩

theorem State.step_joins {state next last : State} {l l' : Lexeme} (h : state.step l = some next)
    (h' : next.step l' = some last) : l.joins l' = true := by
  cases l with
  | number =>
    obtain ⟨value, sum, outer, rfl⟩ := State.step_number h
    cases l' with
    | operator | closeParen | comma => rfl
    | openParen | number | text | name => cases h'
  | name =>
    obtain ⟨pending, outer, rfl⟩ := State.step_name h
    cases l' with
    | openParen => rfl
    | operator | closeParen | comma | number | text | name => cases h'
  | operator | openParen | closeParen | comma | text => rfl

/-! ## Gaps -/

theorem mayPrecede_spaced {state next last : State} {l : Lexeme} {ls : List Lexeme}
    {gaps : Nat → List Char} (hgaps : ∀ n, (gaps n).all Text.isBlank = true)
    (hstep : state.step l = some next) (h : next.walk none ls = some last) :
    l.mayPrecede (spaced gaps ls) = true := by
  have hgap := hgaps 0
  cases ls with
  | nil =>
    unfold spaced
    cases hcs : gaps 0 with
    | nil => exact l.mayPrecede_nil
    | cons c cs =>
      rw [hcs, List.all_cons, Bool.and_eq_true] at hgap
      exact l.mayPrecede_of_blank _ hgap.1
  | cons l' ls =>
    unfold spaced
    cases hcs : gaps 0 with
    | nil =>
      rw [State.walk_none_cons, Option.bind_eq_some_iff] at h
      obtain ⟨last, hstep', -⟩ := h
      exact Lexeme.mayPrecede_of_joins (State.step_joins hstep hstep') _
    | cons c cs =>
      rw [hcs, List.all_cons, Bool.and_eq_true] at hgap
      exact l.mayPrecede_of_blank _ hgap.1

/-- Lexemes that are walked are spelled by their spellings, whatever blanks stand between these. -/
theorem spellsAll_spaced {state last : State} {ls : List Lexeme} {gaps : Nat → List Char}
    (hgaps : ∀ n, (gaps n).all Text.isBlank = true)
    (hspells : ∀ l ∈ ls, Cursor.Spells l.spelling l) (h : state.walk none ls = some last) :
    Cursor.SpellsAll (spaced gaps ls) ls := by
  induction ls generalizing state gaps with
  | nil => exact .nil (hgaps 0)
  | cons l ls ih =>
    obtain ⟨hl, hls⟩ := List.forall_mem_cons.mp hspells
    rw [State.walk_none_cons, Option.bind_eq_some_iff] at h
    obtain ⟨next, hstep, h⟩ := h
    have hrest : ∀ n, (gaps (n + 1)).all Text.isBlank = true := fun n => hgaps (n + 1)
    exact .cons (hgaps 0) hl (mayPrecede_spaced hrest hstep h) (ih hrest hls h)

end Reader

end Calculator
