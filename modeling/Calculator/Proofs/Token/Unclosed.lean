import Calculator.Proofs.Text.SourceLine
import Calculator.Proofs.Token.Coverage

/-!
# Texts that are cut

A semicolon is part of a text or of nothing that can be read. Two of them in a source without
lexical errors therefore stand in a text (`exists_markedText`). When the source is cut in this text,
the tokens in front are read as before, and then comes the error that the text is not closed.
-/

namespace Calculator.Cursor

open SourceLine

/-! ## Semicolons -/

theorem beforeComment_blanks {gap : List Char} (h : gap.all Text.isBlank = true)
    (rest : List Char) : beforeComment (gap ++ rest) = gap ++ beforeComment rest :=
  beforeComment_append (Text.notMem_of_all h (by decide)) rest

theorem beforeComment_quote (rest : List Char) :
    beforeComment ('"' :: rest) = '"' :: beforeComment rest :=
  @beforeComment_append ['"'] (by decide) rest

theorem Spells.kept {cs : List Char} {l : Lexeme} (h : Spells cs l)
    (hplain : ¬∃ content, l = .text content ∧ [';', ';'] <:+: content.toList) (rest : List Char) :
    beforeComment (cs ++ rest) = cs ++ beforeComment rest := by
  cases h with
  | number hnumeric => exact beforeComment_append (hnumeric.notMem rfl rfl rfl) rest
  | @text content hcontent =>
    have hnone : ¬[';', ';'] <:+: content := fun hmarker =>
      hplain ⟨_, rfl, by rwa [String.toList_ofList]⟩
    calc
      beforeComment ('"' :: (content ++ ['"']) ++ rest)
          = '"' :: beforeComment (content ++ '"' :: rest) := by simp [beforeComment_quote]
      _ = '"' :: (content ++ ['"']) ++ beforeComment rest := by
        simp [beforeComment_append_cons hnone]
  | @name c cs hc hcs =>
    have hcs : ';' ∉ cs := Text.notMem_of_all hcs (by decide +kernel)
    exact beforeComment_append (Text.notMem_cons hc (by decide +kernel) hcs) rest
  | @symbol c _ hsymbol =>
    refine beforeComment_append ?_ rest
    rw [List.mem_singleton]
    rintro rfl
    cases hsymbol

/-! ## Texts with two semicolons -/

/-- The first text of a source with two semicolons in it, behind `before`. -/
structure MarkedText (cursor : Cursor) (before : List Char) (content : String)
    (front : List Token) : Prop where
  marker : [';', ';'] <:+: content.toList
  quote : '"' ∉ content.toList
  rest : ∃ after, cursor.rest = before ++ '"' :: (content.toList ++ '"' :: after)
  /-- No comment begins before the text. -/
  kept : ∀ rest, beforeComment (before ++ '"' :: rest) = before ++ '"' :: beforeComment rest
  read : ∃ ahead, cursor.tokens =
    .after front (.cons ⟨.text content, cursor.position + before.length⟩ ahead)
  /-- Without a second quotation mark the text is not closed. -/
  unclosed : ∀ part, '"' ∉ part → ∃ resume,
    tokens ⟨cursor.position, before ++ '"' :: part⟩ =
      .after front (.fail (.unclosedText (cursor.position + before.length)) resume)

theorem next_of_unclosed {gap part : List Char} (position : Nat)
    (hgap : gap.all Text.isBlank = true) (hpart : '"' ∉ part) :
    next ⟨position, gap ++ '"' :: part⟩ = .fail (.unclosedText (position + gap.length))
      ⟨position + gap.length, '"' :: part⟩ := by
  have hhead : ('"' :: part).head?.any Text.isBlank = false := rfl
  have hclosing : part.dropWhile (· != '"') = [] := by
    rw [List.dropWhile_eq_nil_iff]
    intro c hc
    simpa using fun h : c = '"' => hpart (h ▸ hc)
  have hread (cursor : Cursor) :
      cursor.read '"' part = .fail (.unclosedText cursor.position) cursor := by
    rw [read, if_neg (by decide), if_pos rfl]
    simp only [text, hclosing]
  simp only [next, skipBlanks, past, Text.takeWhile_append_of_stop hgap hhead,
    Text.dropWhile_append_of_stop hgap hhead, hread]

theorem Took.markedText {cursor next : Cursor} {token : Token} {gap cs : List Char}
    {content : String} (hnext : cursor.next = .token token next)
    (htook : Took cursor token next gap cs) (hcontent : token.lexeme = .text content)
    (hmarker : [';', ';'] <:+: content.toList) : MarkedText cursor gap content [] := by
  obtain ⟨rfl, hquote⟩ : cs = '"' :: (content.toList ++ ['"']) ∧ '"' ∉ content.toList := by
    have hstands := htook.spells.standsAs htook.ends
    rwa [hcontent] at hstands
  have htoken : token = ⟨.text content, cursor.position + gap.length⟩ := by
    rw [← hcontent, ← htook.position]
  refine ⟨hmarker, hquote, ⟨next.rest, ?_⟩, fun rest => ?_, ⟨next.tokens, ?_⟩, fun part hpart => ?_⟩
  · simpa using htook.rest
  · rw [beforeComment_blanks htook.blank, beforeComment_quote]
  · rw [tokens_of_next_token hnext, htoken]
    rfl
  · exact ⟨_, tokens_of_next_fail (next_of_unclosed _ htook.blank hpart)⟩

theorem MarkedText.cons {cursor next : Cursor} {token : Token} {gap cs before : List Char}
    {content : String} {front : List Token} (hnext : cursor.next = .token token next)
    (htook : Took cursor token next gap cs)
    (hkept : ∀ rest, beforeComment (cs ++ rest) = cs ++ beforeComment rest)
    (h : MarkedText next before content front) :
    MarkedText cursor (gap ++ (cs ++ before)) content (token :: front) := by
  obtain ⟨after, hafter⟩ := h.rest
  obtain ⟨ahead, hread⟩ := h.read
  have hposition : cursor.position + (gap ++ (cs ++ before)).length =
      next.position + before.length := by
    rw [htook.advances, htook.position]
    simp only [List.length_append, Nat.add_assoc]
  refine ⟨h.marker, h.quote, ⟨after, ?_⟩, fun rest => ?_, ⟨ahead, ?_⟩, fun part hpart => ?_⟩
  · rw [htook.rest, hafter]
    simp only [List.append_assoc]
  · simp only [List.append_assoc]
    rw [beforeComment_blanks htook.blank, hkept, h.kept]
  · rw [tokens_of_next_token hnext, hread, hposition]
    rfl
  · obtain ⟨resume, hresume⟩ := h.unclosed part hpart
    have hends : token.lexeme.mayPrecede (before ++ '"' :: part) = true := by
      refine Lexeme.mayPrecede_of_head? ?_ htook.ends
      rw [hafter]
      cases before <;> rfl
    have htoken : (⟨token.lexeme, cursor.position + gap.length⟩ : Token) = token := by
      rw [← htook.position]
    have hsplit : gap ++ (cs ++ before) ++ '"' :: part =
        gap ++ (cs ++ (before ++ '"' :: part)) := by
      simp only [List.append_assoc]
    refine ⟨resume, ?_⟩
    rw [hsplit, tokens_of_next_token (next_of_spells _ htook.blank htook.spells hends), htoken,
      ← htook.position, ← htook.advances, hresume, hposition]
    rfl

theorem exists_markedText (cursor : Cursor) {stop : Nat} (hending : cursor.tokens.ending = .ok stop)
    (hmarker : [';', ';'] <:+: cursor.rest) :
    ∃ before content front, MarkedText cursor before content front := by
  fun_induction tokens cursor with
  | case1 cursor token next hnext ih =>
    obtain ⟨gap, cs, htook⟩ := took_of_next hnext
    by_cases hmarked : ∃ content, token.lexeme = .text content ∧ [';', ';'] <:+: content.toList
    · obtain ⟨content, hcontent, hmarker⟩ := hmarked
      exact ⟨gap, content, [], htook.markedText hnext hcontent hmarker⟩
    · have hkept := htook.spells.kept hmarked
      have hahead : [';', ';'] <:+: next.rest := by
        by_contra hnone
        refine beforeComment_eq_self_iff.mp ?_ hmarker
        rw [htook.rest, beforeComment_blanks htook.blank, hkept, beforeComment_eq_self hnone]
      obtain ⟨before, content, front, h⟩ := ih hending hahead
      exact ⟨_, content, token :: front, h.cons hnext htook hkept⟩
  | case2 cursor next hnext =>
    obtain ⟨hblank, -⟩ := all_isBlank_of_next_finish hnext
    exact absurd (hmarker.mem List.mem_cons_self) (Text.notMem_of_all hblank (by decide))
  | case3 => cases hending

end Calculator.Cursor
