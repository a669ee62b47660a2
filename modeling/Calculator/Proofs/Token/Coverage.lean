import Mathlib.Logic.Function.Iterate
import Calculator.Problem
import Calculator.Proofs.Token.Stream

/-!
# What reading covers

A cursor is `Within` a source when it stands at a position of it with all that follows ahead. A
call of `next` keeps it there and says where its token, the end or its error stands
(`Within.covers`), and so does any number of calls, failures or not. Without a failure the tokens
and the blanks between them are the whole source (`Laid`).
-/

namespace Calculator

/-- How a lexeme stands in a source before `rest`: a text between quotation marks, a name as the
longest run of its characters, in letters of any case, and all else as it is shown. -/
def Lexeme.StandsAs (cs rest : List Char) : Lexeme → Prop
  | .text content => cs = '"' :: (content.toList ++ ['"']) ∧ '"' ∉ content.toList
  | .name lowered => lowered = String.ofList (Text.lower cs) ∧
      cs.head?.any Cursor.isNameStart = true ∧ cs.all Cursor.isNamePart = true ∧
      rest.head?.any Cursor.isNamePart = false
  | lexeme => cs = lexeme.shown.toList

namespace Cursor

def Step.cursor : Step → Cursor
  | .token _ next | .finish next | .fail _ next => next

def advance (cursor : Cursor) : Cursor :=
  cursor.next.cursor

structure Within (source : List Char) (cursor : Cursor) : Prop where
  position_le : cursor.position ≤ source.length
  drop_eq : source.drop cursor.position = cursor.rest

/-- What a step at a place in the source stands for. -/
inductive Covers (source : List Char) (cursor : Cursor) : Step → Prop
  /-- A token behind blanks. It is not empty. -/
  | token {token : Token} {next : Cursor} {gap cs : List Char} :
      source.drop cursor.position = gap ++ (cs ++ source.drop next.position) →
      gap.all Text.isBlank = true → token.position = cursor.position + gap.length →
      cs ≠ [] → next.position = token.position + cs.length → next.position ≤ source.length →
      token.lexeme.StandsAs cs (source.drop next.position) →
      Covers source cursor (.token token next)
  /-- The end of the source, behind nothing but blanks. -/
  | finish : (source.drop cursor.position).all Text.isBlank = true →
      Covers source cursor (.finish ⟨source.length, []⟩)
  /-- An error, which spans some characters ahead of the cursor. -/
  | fail {error : LexError} {next : Cursor} : cursor.position ≤ next.position →
      next.position ≤ source.length → cursor.position ≤ error.start →
      error.start < error.stop source.length → error.stop source.length ≤ source.length →
      Covers source cursor (.fail error next)

/-- Tokens in a source from a position on, with blanks before each and at the end. -/
inductive Laid : Nat → List Char → List Token → Prop
  | nil {position : Nat} {gap : List Char} : gap.all Text.isBlank = true → Laid position gap []
  | cons {position : Nat} {gap cs rest : List Char} {token : Token} {tokens : List Token} :
      gap.all Text.isBlank = true → token.position = position + gap.length →
      token.lexeme.StandsAs cs rest → Laid (token.position + cs.length) rest tokens →
      Laid position (gap ++ (cs ++ rest)) (token :: tokens)

/-! ## One call -/

theorem Spells.standsAs {cs rest : List Char} {lexeme : Lexeme} (h : Spells cs lexeme)
    (hends : lexeme.mayPrecede rest = true) : lexeme.StandsAs cs rest := by
  cases h with
  | number => exact String.toList_ofList.symm
  | @text content hcontent =>
    refine ⟨by rw [String.toList_ofList], ?_⟩
    intro hmem
    rw [String.toList_ofList] at hmem
    simpa using List.all_eq_true.mp hcontent _ hmem
  | @name c cs hc hcs =>
    refine ⟨rfl, hc, ?_, by simpa [Lexeme.mayPrecede] using hends⟩
    rw [List.all_cons, isNamePart_of_isNameStart hc, hcs]
    rfl
  | symbol hsymbol =>
    unfold symbol? at hsymbol
    split at hsymbol <;> cases hsymbol <;> rfl

namespace Within

variable {source : List Char} {cursor : Cursor}

theorem start (source : String) : Within source.toList (Cursor.start source) :=
  ⟨Nat.zero_le _, rfl⟩

theorem length_eq (h : Within source cursor) :
    cursor.position + cursor.rest.length = source.length := by
  have hlength := congrArg List.length h.drop_eq
  rw [List.length_drop] at hlength
  have := h.position_le
  omega

theorem past (h : Within source cursor) {taken rest : List Char}
    (hrest : cursor.rest = taken ++ rest) : Within source (cursor.past taken rest) := by
  have hlength := h.length_eq
  rw [hrest, List.length_append] at hlength
  refine ⟨by simp only [Cursor.past]; omega, ?_⟩
  rw [Cursor.past, ← List.drop_drop, h.drop_eq, hrest, List.drop_left]

end Within

theorem Numeric.length_pos {cs : List Char} (h : Numeric cs) : 0 < cs.length := by
  cases h
  exact Nat.succ_pos _

theorem Failed.exists_past {cursor next : Cursor} {error : LexError}
    (h : Failed cursor error next) :
    ∃ taken rest, cursor.rest = taken ++ rest ∧ next = cursor.past taken rest := by
  cases h with
  | unexpected | unclosed => exact ⟨[], cursor.rest, rfl, rfl⟩
  | format hrest | invalid hrest => exact ⟨_, _, hrest, rfl⟩

theorem Failed.spans {cursor next : Cursor} {error : LexError} (h : Failed cursor error next) :
    error.start < error.stop (cursor.position + cursor.rest.length) ∧
      error.stop (cursor.position + cursor.rest.length) ≤
        cursor.position + cursor.rest.length := by
  cases h with
  | unexpected hrest | unclosed hrest =>
    have hlength := congrArg List.length hrest
    rw [List.length_cons] at hlength
    simp only [LexError.start, LexError.stop]
    omega
  | @format literal rest hrest _ hends =>
    have hfollower : rest ≠ [] := by
      rintro rfl
      cases hends
    have := List.length_pos_iff.mpr hfollower
    have hlength := congrArg List.length hrest
    rw [List.length_append] at hlength
    simp only [LexError.start, LexError.stop]
    omega
  | invalid hrest hnumeric =>
    have := hnumeric.length_pos
    have hlength := congrArg List.length hrest
    rw [List.length_append] at hlength
    simp only [LexError.start, LexError.stop, String.length_ofList]
    omega

namespace Within

variable {source : List Char} {cursor : Cursor}

theorem skipBlanks (h : Within source cursor) : Within source cursor.skipBlanks :=
  h.past List.takeWhile_append_dropWhile.symm

theorem finished {source : List Char} : Within source ⟨source.length, []⟩ :=
  ⟨Nat.le_refl _, List.drop_length⟩

theorem covers (h : Within source cursor) :
    Covers source cursor cursor.next ∧ Within source cursor.advance := by
  rcases next_cases cursor with ⟨hblank, hnext⟩ | ⟨token, next, gap, cs, hnext, htook⟩ |
    ⟨error, next, hnext, hfailed⟩
  · rw [advance, hnext, h.length_eq]
    exact ⟨.finish (h.drop_eq ▸ hblank), finished⟩
  · -- The token moves the cursor behind the blanks, and then behind its characters.
    have hpositions : next = (cursor.past gap (cs ++ next.rest)).past cs next.rest := by
      have hposition : next.position = cursor.position + gap.length + cs.length := by
        rw [htook.advances, htook.position]
      cases next
      simp only [Cursor.past, Cursor.mk.injEq, and_true]
      exact hposition
    have hwithin : Within source next := by
      rw [hpositions]
      exact (h.past htook.rest).past rfl
    rw [advance, hnext]
    refine ⟨.token ?_ htook.blank htook.position htook.spells.ne_nil htook.advances
      hwithin.position_le ?_, hwithin⟩
    · rw [h.drop_eq, hwithin.drop_eq, htook.rest]
    · rw [hwithin.drop_eq]
      exact htook.spells.standsAs htook.ends
  · -- Blanks are gone also where reading fails behind them.
    obtain ⟨taken, rest, hsplit, hleft⟩ := hfailed.exists_past
    obtain ⟨hlt, hle⟩ := hfailed.spans
    have hskipped := h.skipBlanks
    have hwithin : Within source next := hleft ▸ hskipped.past hsplit
    have hahead : cursor.position ≤ cursor.skipBlanks.position := Nat.le_add_right ..
    have hleave : cursor.skipBlanks.position ≤ next.position := by
      rw [hleft]
      exact Nat.le_add_right ..
    have hstart : cursor.position ≤ error.start := hfailed.start_eq ▸ hahead
    rw [hskipped.length_eq] at hlt hle
    rw [advance, hnext]
    exact ⟨.fail (Nat.le_trans hahead hleave) hwithin.position_le hstart hlt hle, hwithin⟩

end Within

theorem Covers.position_le {source : List Char} {cursor : Cursor} {step : Step}
    (hcovers : Covers source cursor step) (h : Within source cursor) :
    cursor.position ≤ step.cursor.position := by
  cases hcovers with
  | token _ _ hstart _ hstop _ _ =>
    simp only [Step.cursor]
    omega
  | finish => exact h.position_le
  | fail hle _ _ _ _ => exact hle

/-! ## Any number of calls -/

/-- A place in a source, and what the call there does. -/
structure Covered (source : String) (cursor : Cursor) : Prop where
  within : Within source.toList cursor
  covers : Covers source.toList cursor cursor.next
  /-- No call goes back. -/
  position_le : cursor.position ≤ cursor.advance.position
  finish_iff : (∃ next, cursor.next = .finish next) ↔ cursor.rest.all Text.isBlank = true
  /-- The end is there for every later call too. -/
  finish_again : (∃ next, cursor.next = .finish next) →
    ∀ n, (advance^[n] cursor).next = .finish ⟨source.length, []⟩
  /-- An error is about some characters of the whole source. -/
  fail_spans : ∀ error next, cursor.next = .fail error next →
    let problem := Problem.ofLexError source error
    problem.source = source ∧ 0 ≤ problem.start ∧ problem.start < problem.stop ∧
      problem.stop ≤ source.length

theorem finish_of_finish {cursor next : Cursor} (h : cursor.next = .finish next) (n : Nat) :
    (advance^[n] cursor).next = .finish ⟨cursor.position + cursor.rest.length, []⟩ := by
  obtain ⟨-, rfl⟩ := all_isBlank_of_next_finish h
  cases n with
  | zero => exact h
  | succ n =>
    have hfixed : advance ⟨cursor.position + cursor.rest.length, []⟩ =
        ⟨cursor.position + cursor.rest.length, []⟩ := rfl
    rw [Function.iterate_succ_apply, advance, h, Step.cursor, Function.iterate_fixed hfixed]
    rfl

theorem Within.covered {source : String} {cursor : Cursor} (h : Within source.toList cursor) :
    Covered source cursor := by
  obtain ⟨hcovers, hadvance⟩ := h.covers
  refine ⟨h, hcovers, hcovers.position_le h, ⟨?_, ?_⟩, ?_, ?_⟩
  · rintro ⟨next, hnext⟩
    exact (all_isBlank_of_next_finish hnext).1
  · exact fun hblank => ⟨_, next_of_blank hblank⟩
  · rintro ⟨next, hnext⟩ n
    rw [finish_of_finish hnext, h.length_eq, String.length_toList]
  · intro error next hnext problem
    rw [hnext] at hcovers
    cases hcovers with
    | fail _ _ _ hlt hle =>
      rw [String.length_toList] at hlt hle
      exact ⟨rfl, Int.natCast_nonneg _, Int.ofNat_lt.mpr hlt, Int.ofNat_le.mpr hle⟩

theorem Within.iterate {source : List Char} {cursor : Cursor} (h : Within source cursor) (n : Nat) :
    Within source (advance^[n] cursor) := by
  induction n generalizing cursor with
  | zero => exact h
  | succ n ih => exact ih h.covers.2

/-! ## Reading to the end -/

/-- What reading a source token by token comes to. -/
structure Iterated (source : String) (tokens : Tokens) : Prop where
  /-- The calls give the tokens one by one, and after them the end or the error. -/
  token_at : ∀ n (h : n < tokens.toList.length), ∃ next,
    (advance^[n] (start source)).next = .token tokens.toList[n] next
  finish_at : ∀ stop, tokens.ending = .ok stop →
    (advance^[tokens.toList.length] (start source)).next = .finish ⟨stop, []⟩
  fail_at : ∀ error, tokens.ending = .error error → ∃ next,
    (advance^[tokens.toList.length] (start source)).next = .fail error next
  length_le : tokens.toList.length ≤ source.length
  /-- Without an error all of the source is tokens and blanks. -/
  laid : ∀ stop, tokens.ending = .ok stop →
    stop = source.length ∧ Laid 0 source.toList tokens.toList

theorem tokens_length_le (cursor : Cursor) : cursor.tokens.toList.length ≤ cursor.rest.length := by
  fun_induction tokens cursor with
  | case1 cursor token next hnext ih =>
    have := next_token_lt hnext
    simp only [Tokens.toList, List.length_cons]
    omega
  | case2 | case3 => exact Nat.zero_le _

theorem tokens_laid (cursor : Cursor) {stop : Nat} (h : cursor.tokens.ending = .ok stop) :
    Laid cursor.position cursor.rest cursor.tokens.toList := by
  fun_induction tokens cursor with
  | case1 cursor token next hnext ih =>
    obtain ⟨gap, cs, htook⟩ := took_of_next hnext
    have hrest := ih h
    rw [htook.advances] at hrest
    rw [htook.rest]
    exact .cons htook.blank htook.position (htook.spells.standsAs htook.ends) hrest
  | case2 cursor next hnext => exact .nil (all_isBlank_of_next_finish hnext).1
  | case3 => cases h

theorem next_iterate (cursor : Cursor) :
    (∀ n (h : n < cursor.tokens.toList.length), ∃ next,
      (advance^[n] cursor).next = .token cursor.tokens.toList[n] next) ∧
    match cursor.tokens.ending with
    | .ok stop => (advance^[cursor.tokens.toList.length] cursor).next = .finish ⟨stop, []⟩
    | .error error => ∃ next,
        (advance^[cursor.tokens.toList.length] cursor).next = .fail error next := by
  fun_induction tokens cursor with
  | case1 cursor token next hnext ih =>
    have hadvance : cursor.advance = next := by rw [advance, hnext, Step.cursor]
    refine ⟨?_, ?_⟩
    · intro n hn
      cases n with
      | zero => exact ⟨next, hnext⟩
      | succ n =>
        rw [Function.iterate_succ_apply, hadvance]
        exact ih.1 n (Nat.lt_of_succ_lt_succ hn)
    · simp only [Tokens.toList, Tokens.ending, List.length_cons, Function.iterate_succ_apply,
        hadvance]
      exact ih.2
  | case2 cursor next hnext =>
    obtain ⟨-, rfl⟩ := all_isBlank_of_next_finish hnext
    exact ⟨fun n hn => absurd hn (Nat.not_lt_zero n), hnext⟩
  | case3 cursor error next hnext =>
    exact ⟨fun n hn => absurd hn (Nat.not_lt_zero n), next, hnext⟩

theorem iterated_ofSource (source : String) : Iterated source (Tokens.ofSource source) := by
  obtain ⟨htokens, hending⟩ := next_iterate (start source)
  refine ⟨htokens, ?_, ?_, ?_, ?_⟩
  · intro stop hstop
    rw [← Tokens.ofSource, hstop] at hending
    exact hending
  · intro error herror
    rw [← Tokens.ofSource, herror] at hending
    exact hending
  · rw [← String.length_toList]
    exact tokens_length_le (start source)
  · exact fun stop hstop => ⟨Tokens.stop_of_ending hstop, tokens_laid (start source) hstop⟩

/-- After any number of calls, failed ones among them, the cursor is a place in the source and the
next call covers what is ahead of it. Reading to the end takes at most one call more than there are
characters, and if it does not fail the source is its tokens and the blanks around them. -/
theorem covered_of_calls (source : String) :
    (∀ n, Covered source (advance^[n] (start source))) ∧
      Iterated source (Tokens.ofSource source) :=
  ⟨fun n => ((Within.start source).iterate n).covered, iterated_ofSource source⟩

example : (advance (start "1a")).next = .token ⟨.name "a", 1⟩ ⟨2, []⟩ := by decide +kernel

end Cursor

end Calculator
