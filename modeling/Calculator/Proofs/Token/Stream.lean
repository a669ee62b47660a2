import Calculator.Proofs.Token.Spelling

/-!
# Whole sources

`SpellsAll` puts spellings in a row, with blanks around them. A source spells lexemes exactly when
reading it to its end gives these lexemes and no error (`spellsAll_iff`), whatever blanks it has.
Tokens come in the order of their positions, and an error is behind all of them.
-/

namespace Calculator

namespace Tokens

def lexemes (tokens : Tokens) : List Lexeme :=
  tokens.toList.map Token.lexeme

def after (front : List Token) (tokens : Tokens) : Tokens :=
  front.foldr .cons tokens

@[simp] theorem after_nil (tokens : Tokens) : after [] tokens = tokens := rfl

@[simp] theorem after_cons (token : Token) (front : List Token) (tokens : Tokens) :
    after (token :: front) tokens = .cons token (after front tokens) := rfl

@[simp] theorem toList_after (front : List Token) (tokens : Tokens) :
    (after front tokens).toList = front ++ tokens.toList := by
  induction front with
  | nil => rfl
  | cons token front ih => simp [toList, ih]

@[simp] theorem ending_after (front : List Token) (tokens : Tokens) :
    (after front tokens).ending = tokens.ending := by
  induction front with
  | nil => rfl
  | cons token front ih => simpa [ending] using ih

@[simp] theorem lexemes_after (front : List Token) (tokens : Tokens) :
    (after front tokens).lexemes = front.map Token.lexeme ++ tokens.lexemes := by
  simp [lexemes]

@[simp] theorem lexemes_cons (token : Token) (ahead : Tokens) :
    (cons token ahead).lexemes = token.lexeme :: ahead.lexemes := rfl

@[simp] theorem lexemes_finish (position : Nat) : (finish position).lexemes = [] := rfl

@[simp] theorem lexemes_fail (error : LexError) (resume : Cursor) :
    (fail error resume).lexemes = [] := rfl

end Tokens

namespace Cursor

open Text

theorem tokens_of_next_token {cursor next : Cursor} {token : Token}
    (h : cursor.next = .token token next) : cursor.tokens = .cons token next.tokens := by
  rw [tokens]
  split <;> simp_all

theorem tokens_of_next_finish {cursor next : Cursor} (h : cursor.next = .finish next) :
    cursor.tokens = .finish next.position := by
  rw [tokens]
  split <;> simp_all

theorem tokens_of_next_fail {cursor next : Cursor} {error : LexError}
    (h : cursor.next = .fail error next) : cursor.tokens = .fail error next := by
  rw [tokens]
  split <;> simp_all

/-- The characters of several lexemes, with blanks before each and at the end. -/
inductive SpellsAll : List Char → List Lexeme → Prop
  | nil {gap : List Char} : gap.all isBlank = true → SpellsAll gap []
  | cons {gap cs rest : List Char} {l : Lexeme} {ls : List Lexeme} : gap.all isBlank = true →
      Spells cs l → l.mayPrecede rest = true → SpellsAll rest ls →
      SpellsAll (gap ++ (cs ++ rest)) (l :: ls)

theorem SpellsAll.indent {gap cs : List Char} {ls : List Lexeme} (hgap : gap.all isBlank = true)
    (h : SpellsAll cs ls) : SpellsAll (gap ++ cs) ls := by
  cases h with
  | nil hblank => exact .nil (by simp [hgap, hblank])
  | @cons front spelled rest _ _ hblank hspells hends hrest =>
    rw [← List.append_assoc]
    exact .cons (by simp [hgap, hblank]) hspells hends hrest

/-- One source behind another, where each lexeme of the first ends before the second. -/
theorem SpellsAll.append {cs ds : List Char} {ls ms : List Lexeme} (h : SpellsAll cs ls)
    (h' : SpellsAll ds ms) (hends : ∀ l ∈ ls, l.mayPrecede ds = true) :
    SpellsAll (cs ++ ds) (ls ++ ms) := by
  induction h with
  | nil hgap => exact h'.indent hgap
  | @cons gap spelled rest l ls hgap hspells hrest _ ih =>
    obtain ⟨hl, hls⟩ := List.forall_mem_cons.mp hends
    have hjoin : l.mayPrecede (rest ++ ds) = true := by
      cases rest with
      | nil => exact hl
      | cons c rest =>
        have hhead : (c :: rest ++ ds).head? = (c :: rest).head? := rfl
        exact Lexeme.mayPrecede_of_head? hhead hrest
    simpa only [List.append_assoc, List.cons_append] using
      SpellsAll.cons hgap hspells hjoin (ih hls)

theorem SpellsAll.tokens {cs : List Char} {ls : List Lexeme} (h : SpellsAll cs ls)
    (position : Nat) :
    (Cursor.tokens ⟨position, cs⟩).lexemes = ls ∧
      (Cursor.tokens ⟨position, cs⟩).ending = .ok (position + cs.length) := by
  induction h generalizing position with
  | nil hgap =>
    rw [tokens_of_next_finish (next_of_blank hgap)]
    exact ⟨rfl, rfl⟩
  | @cons gap cs rest l ls hgap hspells hends _ ih =>
    obtain ⟨hls, hending⟩ := ih (position + gap.length + cs.length)
    rw [tokens_of_next_token (next_of_spells position hgap hspells hends)]
    refine ⟨by simp [hls], ?_⟩
    rw [Tokens.ending, hending]
    simp only [List.length_append, Nat.add_assoc]

/-- What a source has been read as, up to its end or the first error: each token is spelled, and
positions increase. -/
theorem tokens_spells (cursor : Cursor) :
    (∀ token ∈ cursor.tokens.toList, (∃ cs, Spells cs token.lexeme) ∧
      cursor.position ≤ token.position) ∧
    match cursor.tokens.ending with
    | .ok stop => SpellsAll cursor.rest cursor.tokens.lexemes ∧
        stop = cursor.position + cursor.rest.length
    | .error error => cursor.position ≤ error.start ∧
        ∀ token ∈ cursor.tokens.toList, token.position < error.start := by
  fun_induction tokens cursor with
  | case1 cursor token next hnext ih =>
    obtain ⟨gap, cs, htook⟩ := took_of_next hnext
    obtain ⟨hle, hlt⟩ := htook.positions
    obtain ⟨htokens, hending⟩ := ih
    refine ⟨?_, ?_⟩
    · rintro t (_ | ⟨_, ht⟩)
      · exact ⟨⟨cs, htook.spells⟩, hle⟩
      · obtain ⟨hspells, hpos⟩ := htokens t ht
        exact ⟨hspells, by omega⟩
    · simp only [Tokens.ending]
      split at hending
      · obtain ⟨hall, rfl⟩ := hending
        rw [htook.rest]
        refine ⟨.cons htook.blank htook.spells htook.ends hall, ?_⟩
        simp only [htook.advances, htook.position, List.length_append, Nat.add_assoc]
      · obtain ⟨hstart, hbefore⟩ := hending
        refine ⟨by omega, ?_⟩
        rintro t (_ | ⟨_, ht⟩)
        · omega
        · exact hbefore t ht
  | case2 cursor next hnext =>
    obtain ⟨hblank, rfl⟩ := all_isBlank_of_next_finish hnext
    exact ⟨by simp [Tokens.toList], .nil hblank, rfl⟩
  | case3 cursor error next hnext =>
    exact ⟨by simp [Tokens.toList], position_le_of_next_fail hnext, by simp [Tokens.toList]⟩

theorem spellsAll_iff {cursor : Cursor} {ls : List Lexeme} :
    SpellsAll cursor.rest ls ↔
      cursor.tokens.lexemes = ls ∧ ∃ stop, cursor.tokens.ending = .ok stop := by
  constructor
  · intro h
    obtain ⟨hls, hending⟩ := h.tokens cursor.position
    exact ⟨hls, _, hending⟩
  · rintro ⟨rfl, stop, hstop⟩
    have := (tokens_spells cursor).2
    rw [hstop] at this
    exact this.1

end Cursor

namespace Tokens

theorem exists_after {tokens : Tokens} {stop : Nat} {front more : List Lexeme}
    (hending : tokens.ending = .ok stop) (h : tokens.lexemes = front ++ more) :
    ∃ tokens' rest, tokens = .after tokens' rest ∧ tokens'.map Token.lexeme = front ∧
      rest.lexemes = more ∧ rest.ending = .ok stop := by
  induction front generalizing tokens with
  | nil => exact ⟨[], tokens, rfl, rfl, h, hending⟩
  | cons l front ih =>
    cases tokens with
    | finish | fail => cases h
    | cons token ahead =>
      rw [lexemes_cons, List.cons_append] at h
      obtain ⟨rfl, hahead⟩ := List.cons.inj h
      have hending : ahead.ending = .ok stop := hending
      obtain ⟨tokens', rest, rfl, rfl, hmore, hrest⟩ := ih hending hahead
      exact ⟨token :: tokens', rest, rfl, rfl, hmore, hrest⟩

theorem eq_finish {tokens : Tokens} {stop : Nat} (hending : tokens.ending = .ok stop)
    (h : tokens.lexemes = []) : tokens = .finish stop := by
  cases tokens with
  | finish => cases hending; rfl
  | fail => cases hending
  | cons => cases h

theorem eq_cons {tokens : Tokens} {stop : Nat} {l : Lexeme} {ls : List Lexeme}
    (hending : tokens.ending = .ok stop) (h : tokens.lexemes = l :: ls) :
    ∃ token ahead, tokens = .cons token ahead ∧ token.lexeme = l := by
  cases tokens with
  | finish | fail => cases h
  | cons token ahead => exact ⟨token, ahead, rfl, (List.cons.inj h).1⟩

theorem spellsAll_ofSource {source : String} {ls : List Lexeme} :
    Cursor.SpellsAll source.toList ls ↔
      (ofSource source).lexemes = ls ∧ ∃ stop, (ofSource source).ending = .ok stop :=
  @Cursor.spellsAll_iff (Cursor.start source) ls

theorem spells_of_mem {source : String} {token : Token} (h : token ∈ (ofSource source).toList) :
    ∃ cs, Cursor.Spells cs token.lexeme :=
  ((Cursor.tokens_spells _).1 token h).1

theorem position_lt_of_ending {source : String} {token : Token} {error : LexError}
    (h : (ofSource source).ending = .error error) (ht : token ∈ (ofSource source).toList) :
    token.position < error.start := by
  have := (Cursor.tokens_spells (Cursor.start source)).2
  rw [show (Cursor.start source).tokens.ending = _ from h] at this
  exact this.2 token ht

theorem stop_of_ending {source : String} {stop : Nat} (h : (ofSource source).ending = .ok stop) :
    stop = source.length := by
  have := (Cursor.tokens_spells (Cursor.start source)).2
  rw [show (Cursor.start source).tokens.ending = _ from h] at this
  simpa [Cursor.start, String.length_toList] using this.2

end Tokens

end Calculator
