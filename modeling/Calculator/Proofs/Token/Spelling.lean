import Mathlib.Data.List.TakeWhile
import Calculator.Proofs.Text.Classes
import Calculator.Token.Stream

/-!
# The lexical grammar

`Spells` says which characters spell a lexeme, and `Lexeme.mayPrecede` what may stand behind them.
Reading a token is sound for this (`took_of_next`) and finds every spelling behind blanks
(`next_of_spells`).
-/

namespace Calculator

namespace Cursor

inductive Exponent : List Char → Prop
  | none : Exponent []
  | unsigned {mark digit : Char} {digits : List Char} : isExponentMark mark = true →
      Decimal.isDigit digit = true → digits.all Decimal.isDigit = true →
      Exponent (mark :: digit :: digits)
  | signed {mark sign digit : Char} {digits : List Char} : isExponentMark mark = true →
      isSign sign = true → Decimal.isDigit digit = true → digits.all Decimal.isDigit = true →
      Exponent (mark :: sign :: digit :: digits)

def isDigitOrPoint (c : Char) : Bool :=
  Decimal.isDigit c || c == '.'

inductive Numeric : List Char → Prop
  | intro {digit : Char} {mantissa exponent : List Char} : Decimal.isDigit digit = true →
      mantissa.all isDigitOrPoint = true → Exponent exponent →
      Numeric (digit :: mantissa ++ exponent)

/-- The characters of a lexeme in a source. -/
inductive Spells : List Char → Lexeme → Prop
  | number {cs : List Char} {decimal : Decimal} : Numeric cs → Decimal.read? cs = some decimal →
      Spells cs (.number (String.ofList cs) (decimal.toBinary64 false))
  | text {content : List Char} : content.all (· != '"') = true →
      Spells ('"' :: (content ++ ['"'])) (.text (String.ofList content))
  | name {c : Char} {cs : List Char} : isNameStart c = true → cs.all isNamePart = true →
      Spells (c :: cs) (.name (String.ofList (Text.lower (c :: cs))))
  | symbol {c : Char} {lexeme : Lexeme} : symbol? c = some lexeme → Spells [c] lexeme

end Cursor

/-- Whether a lexeme ends where `rest` begins. -/
def Lexeme.mayPrecede : Lexeme → List Char → Bool
  | .number .., rest => rest.head?.all Cursor.mayFollowNumber
  | .name _, rest => !rest.head?.any Cursor.isNamePart
  | _, _ => true

theorem Lexeme.mayPrecede_cons {c : Char} (l : Lexeme) (rest : List Char)
    (hnumber : Cursor.mayFollowNumber c = true) (hname : Cursor.isNamePart c = false) :
    l.mayPrecede (c :: rest) = true := by
  cases l with
  | number => simp [mayPrecede, hnumber]
  | name => simp [mayPrecede, hname]
  | operator | openParen | closeParen | comma | text => rfl

theorem Lexeme.mayPrecede_of_head? {l : Lexeme} {cs cs' : List Char} (hhead : cs'.head? = cs.head?)
    (h : l.mayPrecede cs = true) : l.mayPrecede cs' = true := by
  cases l <;> simp only [mayPrecede, hhead] at h ⊢ <;> exact h

namespace Cursor

open Text

/-! ## Numbers -/

theorem isDigit_of_isSign {c : Char} (h : isSign c = true) : Decimal.isDigit c = false := by
  rcases Bool.or_eq_true_iff.mp h with h | h <;> rw [beq_iff_eq.mp h] <;> rfl

theorem isDigitOrPoint_of_isExponentMark {c : Char} (h : isExponentMark c = true) :
    isDigitOrPoint c = false := by
  rcases Bool.or_eq_true_iff.mp h with h | h <;> rw [beq_iff_eq.mp h] <;> rfl

theorem Exponent.notMem {cs : List Char} {c : Char} (h : Exponent cs)
    (hmark : isExponentMark c = false) (hsign : isSign c = false)
    (hdigit : Decimal.isDigit c = false) : c ∉ cs := by
  cases h with
  | none => exact List.not_mem_nil
  | unsigned hm hd hds =>
    exact notMem_cons hm hmark (notMem_cons hd hdigit (notMem_of_all hds hdigit))
  | signed hm hs hd hds =>
    exact notMem_cons hm hmark
      (notMem_cons hs hsign (notMem_cons hd hdigit (notMem_of_all hds hdigit)))

theorem Numeric.notMem {cs : List Char} {c : Char} (h : Numeric cs)
    (hpoint : isDigitOrPoint c = false) (hmark : isExponentMark c = false)
    (hsign : isSign c = false) : c ∉ cs := by
  obtain ⟨hdigit, hmantissa, hexponent⟩ := h
  have hnone : Decimal.isDigit c = false := (Bool.or_eq_false_iff.mp hpoint).1
  rw [List.mem_append, not_or]
  exact ⟨notMem_cons hdigit hnone (notMem_of_all hmantissa hpoint),
    hexponent.notMem hmark hsign hnone⟩

theorem splitExponent_exponent (cs : List Char) : Exponent (splitExponent cs).1 := by
  unfold splitExponent
  split
  · next mark c cs =>
    split
    · next h =>
      rw [Bool.and_eq_true] at h
      exact .unsigned h.1 h.2 List.all_takeWhile
    · split
      · next h =>
        simp only [Bool.and_eq_true] at h
        cases cs with
        | nil => simp at h
        | cons d cs =>
          have hd : Decimal.isDigit d = true := by simpa using h.2
          rw [List.takeWhile_cons_of_pos hd]
          exact .signed h.1.1 h.1.2 hd List.all_takeWhile
      · exact .none
  · exact .none

theorem splitExponent_append_of_stop {exponent rest : List Char} (h : Exponent exponent)
    (hmark : rest.head?.any isExponentMark = false)
    (hdigit : rest.head?.any Decimal.isDigit = false) :
    splitExponent (exponent ++ rest) = (exponent, rest) := by
  cases h with
  | none =>
    match rest with
    | [] | [_] => rfl
    | mark :: c :: cs =>
      have : isExponentMark mark = false := by simpa using hmark
      simp [splitExponent, this]
  | unsigned hm hd hds =>
    simp [splitExponent, hm, hd, takeWhile_append_of_stop hds hdigit,
      dropWhile_append_of_stop hds hdigit]
  | @signed _ _ d ds hm hs hd hds =>
    have hds : (d :: ds).all Decimal.isDigit = true := by simpa [hd] using hds
    have htake := takeWhile_append_of_stop hds hdigit
    have hdrop := dropWhile_append_of_stop hds hdigit
    simp only [List.cons_append] at htake hdrop
    simp [splitExponent, hm, hs, isDigit_of_isSign hs, hd, htake, hdrop]

theorem splitNumber_eq (cs : List Char) :
    splitNumber cs =
      (cs.takeWhile isDigitOrPoint ++ (splitExponent (cs.dropWhile isDigitOrPoint)).1,
        (splitExponent (cs.dropWhile isDigitOrPoint)).2) :=
  rfl

theorem splitNumber_numeric {c : Char} (h : Decimal.isDigit c = true) (cs : List Char) :
    Numeric (splitNumber (c :: cs)).1 := by
  have hc : isDigitOrPoint c = true := by simp [isDigitOrPoint, h]
  rw [splitNumber_eq, List.takeWhile_cons_of_pos hc, List.dropWhile_cons_of_pos hc]
  exact .intro h List.all_takeWhile (splitExponent_exponent _)

theorem splitNumber_append_of_stop {cs rest : List Char} (h : Numeric cs)
    (hrest : rest.head?.all mayFollowNumber = true) : splitNumber (cs ++ rest) = (cs, rest) := by
  obtain @⟨digit, mantissa, exponent, hd, hm, he⟩ := h
  have hm : (digit :: mantissa).all isDigitOrPoint = true := by simp_all [isDigitOrPoint]
  have hdigit := head?_any_of_all hrest fun c h => (mayFollowNumber_classes h).1
  have hmark := head?_any_of_all hrest fun c h => (mayFollowNumber_classes h).2.2
  have hstop : (exponent ++ rest).head?.any isDigitOrPoint = false := by
    cases he with
    | none =>
      refine head?_any_of_all hrest fun c h => ?_
      obtain ⟨hd, hp, -⟩ := mayFollowNumber_classes h
      simp [isDigitOrPoint, hd, hp]
    | unsigned h | signed h => simpa using isDigitOrPoint_of_isExponentMark h
  rw [List.append_assoc, splitNumber_eq, takeWhile_append_of_stop hm hstop,
    dropWhile_append_of_stop hm hstop, splitExponent_append_of_stop he hmark hdigit]

/-! ## One token -/

theorem symbol?_cases {c : Char} {l : Lexeme} (h : symbol? c = some l) :
    (∃ op, l = .operator op) ∨ l = .openParen ∨ l = .closeParen ∨ l = .comma := by
  unfold symbol? at h
  split at h <;> cases h <;> simp

theorem Spells.of_number {cs : List Char} {literal : String} {value : Binary64}
    (h : Spells cs (.number literal value)) :
    ∃ decimal, Numeric cs ∧ Decimal.read? cs = some decimal ∧ literal = String.ofList cs ∧
      value = decimal.toBinary64 false := by
  cases h with
  | @number cs decimal hnumeric hread => exact ⟨decimal, hnumeric, hread, rfl, rfl⟩
  | symbol hsymbol => rcases symbol?_cases hsymbol with ⟨_, h⟩ | h | h | h <;> cases h

theorem Spells.ne_nil {cs : List Char} {lexeme : Lexeme} (h : Spells cs lexeme) : cs ≠ [] := by
  cases h with
  | number hn => obtain ⟨-, -, -⟩ := hn; simp
  | text | name | symbol => simp

theorem Spells.isBlank_head {cs rest : List Char} {lexeme : Lexeme} (h : Spells cs lexeme) :
    (cs ++ rest).head?.any isBlank = false := by
  cases h with
  | number hn =>
    obtain ⟨hd, -, -⟩ := hn
    simp only [List.cons_append, List.head?_cons, Option.any_some, Bool.eq_false_iff]
    intro hb
    rw [isDigit_of_isBlank hb] at hd
    cases hd
  | text => rfl
  | name hc => simpa using isBlank_of_isNameStart hc
  | symbol hc => simpa using (symbol?_classes hc).1

theorem number_of_numeric {cs rest : List Char} {decimal : Decimal} (position : Nat)
    (h : Numeric cs) (hread : Decimal.read? cs = some decimal)
    (hrest : rest.head?.all mayFollowNumber = true) :
    number ⟨position, cs ++ rest⟩ =
      .token ⟨.number (String.ofList cs) (decimal.toBinary64 false), position⟩
        ⟨position + cs.length, rest⟩ := by
  simp [number, splitNumber_append_of_stop h hrest, hrest, hread, past]

theorem text_of_content {content : List Char} (position : Nat) (rest opened : List Char)
    (h : content.all (· != '"') = true) :
    text ⟨position, opened⟩ (content ++ '"' :: rest) =
      .token ⟨.text (String.ofList content), position⟩ ⟨position + content.length + 2, rest⟩ := by
  have hstop : ('"' :: rest).head?.any (· != '"') = false := rfl
  simp only [text, takeWhile_append_of_stop h hstop, dropWhile_append_of_stop h hstop]

theorem read_of_spells {c : Char} {cs rest : List Char} {lexeme : Lexeme} (position : Nat)
    (h : Spells (c :: cs) lexeme) (hrest : lexeme.mayPrecede rest = true) :
    read ⟨position, c :: cs ++ rest⟩ c (cs ++ rest) =
      .token ⟨lexeme, position⟩ ⟨position + (c :: cs).length, rest⟩ := by
  unfold read
  generalize hspelled : c :: cs = spelled at h
  cases h with
  | number hn hread =>
    have hc : Decimal.isDigit c = true := by
      obtain ⟨hd, -, -⟩ := hn
      cases hspelled
      exact hd
    rw [if_pos hc]
    exact number_of_numeric position hn hread hrest
  | text hcontent =>
    cases hspelled
    rw [if_neg (by decide), if_pos rfl]
    simpa [Nat.add_assoc] using text_of_content position rest _ hcontent
  | @name d ds hd hds =>
    cases hspelled
    have hne := ne_quote_of_isNameStart hd
    rw [if_neg (by simp [isDigit_of_isNameStart hd]), if_neg hne, if_pos hd]
    have hall : (c :: cs).all isNamePart = true := by simp [isNamePart_of_isNameStart hd, hds]
    have hstop : rest.head?.any isNamePart = false := by simpa [Lexeme.mayPrecede] using hrest
    simp only [name, past, takeWhile_append_of_stop hall hstop, dropWhile_append_of_stop hall hstop]
  | symbol hsymbol =>
    cases hspelled
    obtain ⟨-, hd, hq, hn⟩ := symbol?_classes hsymbol
    simp [hd, hq, hn, hsymbol]

/-- A spelling behind blanks is read as the token it spells. -/
theorem next_of_spells {gap cs rest : List Char} {lexeme : Lexeme} (position : Nat)
    (hgap : gap.all isBlank = true) (h : Spells cs lexeme) (hrest : lexeme.mayPrecede rest = true) :
    next ⟨position, gap ++ (cs ++ rest)⟩ =
      .token ⟨lexeme, position + gap.length⟩ ⟨position + gap.length + cs.length, rest⟩ := by
  have hhead : (cs ++ rest).head?.any isBlank = false := h.isBlank_head
  cases cs with
  | nil => exact absurd rfl h.ne_nil
  | cons c cs =>
    simp only [next, skipBlanks, past]
    rw [takeWhile_append_of_stop hgap hhead, dropWhile_append_of_stop hgap hhead]
    exact read_of_spells _ h hrest

structure Took (cursor : Cursor) (token : Token) (next : Cursor) (gap cs : List Char) : Prop where
  blank : gap.all isBlank = true
  spells : Spells cs token.lexeme
  ends : token.lexeme.mayPrecede next.rest = true
  rest : cursor.rest = gap ++ (cs ++ next.rest)
  position : token.position = cursor.position + gap.length
  advances : next.position = token.position + cs.length

/-- The ways in which reading fails at a cursor, and where it goes on. -/
inductive Failed (cursor : Cursor) : LexError → Cursor → Prop
  | unexpected {c : Char} {cs : List Char} : cursor.rest = c :: cs → symbol? c = none →
      Failed cursor (.unexpected c cursor.position) cursor
  | unclosed {body : List Char} : cursor.rest = '"' :: body → '"' ∉ body →
      Failed cursor (.unclosedText cursor.position) cursor
  /-- Something stands behind a number that may not, whether the number has a value or not. -/
  | format {literal rest : List Char} : cursor.rest = literal ++ rest → Numeric literal →
      rest.head?.all mayFollowNumber = false →
      Failed cursor (.numberFormat cursor.position literal.length) (cursor.past literal rest)
  | invalid {literal rest : List Char} : cursor.rest = literal ++ rest → Numeric literal →
      rest.head?.all mayFollowNumber = true → Decimal.read? literal = none →
      Failed cursor (.invalidNumber (String.ofList literal) cursor.position)
        (cursor.past literal rest)

theorem read_cases (cursor : Cursor) {c : Char} {cs : List Char} (hrest : cursor.rest = c :: cs) :
    (∃ token next spelled, cursor.read c cs = .token token next ∧
      Took cursor token next [] spelled) ∨
    ∃ error next, cursor.read c cs = .fail error next ∧ Failed cursor error next := by
  unfold read
  split
  · next hd =>
    have happ := splitNumber_append cursor.rest
    have hnum := splitNumber_numeric hd cs
    rw [← hrest] at hnum
    simp only [number, past]
    split
    · next hends =>
      split
      · next hread => exact .inl ⟨_, _, _, rfl, rfl, .number hnum hread, hends, happ.symm, rfl, rfl⟩
      · next hread => exact .inr ⟨_, _, rfl, .invalid happ.symm hnum hends hread⟩
    · next hends => exact .inr ⟨_, _, rfl, .format happ.symm hnum (Bool.eq_false_iff.mpr hends)⟩
  · split
    · next hq =>
      subst hq
      simp only [text]
      split
      · next hdrop =>
        refine .inr ⟨_, _, rfl, .unclosed hrest fun hmem => ?_⟩
        simpa using List.dropWhile_eq_nil_iff.mp hdrop _ hmem
      · next d rest hdrop =>
        have hd : d = '"' := by
          have := head?_dropWhile_any (· != '"') cs
          simpa [hdrop] using this
        subst hd
        refine .inl ⟨_, _, _, rfl, rfl, .text List.all_takeWhile, rfl, ?_, rfl, ?_⟩
        · simp [hrest, ← hdrop]
        · simp [Nat.add_assoc]
    · split
      · next hn =>
        have htake := List.takeWhile_cons_of_pos (l := cs) (isNamePart_of_isNameStart hn)
        have happ := List.takeWhile_append_dropWhile (p := isNamePart) (l := cursor.rest)
        simp only [name, past]
        rw [hrest] at happ ⊢
        rw [htake] at happ ⊢
        refine .inl ⟨_, _, _, rfl, rfl, .name hn List.all_takeWhile, ?_, ?_, rfl, rfl⟩
        · simp only [Lexeme.mayPrecede, head?_dropWhile_any, Bool.not_false]
        · rw [hrest, List.nil_append, happ]
      · split
        · next hs =>
          refine .inl ⟨_, _, [c], rfl, rfl, .symbol hs, ?_, by simp [hrest], rfl, rfl⟩
          rcases symbol?_cases hs with ⟨_, rfl⟩ | rfl | rfl | rfl <;> rfl
        · next hs => exact .inr ⟨_, _, rfl, .unexpected hrest hs⟩

/-- All that reading a token can do. -/
theorem next_cases (cursor : Cursor) :
    (cursor.rest.all isBlank = true ∧
      cursor.next = .finish ⟨cursor.position + cursor.rest.length, []⟩) ∨
    (∃ token next gap cs, cursor.next = .token token next ∧ Took cursor token next gap cs) ∨
    ∃ error next, cursor.next = .fail error next ∧ Failed cursor.skipBlanks error next := by
  have happ := List.takeWhile_append_dropWhile (p := isBlank) (l := cursor.rest)
  have hall : (cursor.rest.takeWhile isBlank).all isBlank = true := List.all_takeWhile
  cases hrest : cursor.rest.dropWhile isBlank with
  | nil =>
    rw [hrest, List.append_nil] at happ
    refine .inl ⟨happ ▸ hall, ?_⟩
    simp only [Cursor.next, skipBlanks, past, hrest, happ]
  | cons c cs =>
    have hnext : cursor.next = cursor.skipBlanks.read c cs := by
      simp only [Cursor.next, skipBlanks, past, hrest]
    rw [hnext]
    rcases read_cases cursor.skipBlanks hrest with
      ⟨token, next, spelled, hread, htook⟩ | hfailed
    · refine .inr (.inl ⟨token, next, _, spelled, hread, hall, htook.spells, htook.ends, ?_,
        htook.position, htook.advances⟩)
      rw [← List.nil_append (spelled ++ next.rest), ← htook.rest]
      exact happ.symm
    · exact .inr (.inr hfailed)

theorem took_of_next {cursor next : Cursor} {token : Token} (h : cursor.next = .token token next) :
    ∃ gap cs, Took cursor token next gap cs := by
  rcases next_cases cursor with ⟨-, hn⟩ | ⟨_, _, gap, cs, hn, htook⟩ | ⟨_, _, hn, -⟩ <;>
    rw [hn] at h <;> cases h
  exact ⟨gap, cs, htook⟩

theorem failed_of_next {cursor next : Cursor} {error : LexError}
    (h : cursor.next = .fail error next) : Failed cursor.skipBlanks error next := by
  rcases next_cases cursor with ⟨-, hn⟩ | ⟨_, _, _, _, hn, -⟩ | ⟨_, _, hn, hfailed⟩ <;>
    rw [hn] at h <;> cases h
  exact hfailed

theorem Failed.start_eq {cursor next : Cursor} {error : LexError} (h : Failed cursor error next) :
    error.start = cursor.position := by
  cases h <;> rfl

theorem position_le_of_next_fail {cursor next : Cursor} {error : LexError}
    (h : cursor.next = .fail error next) : cursor.position ≤ error.start := by
  rw [(failed_of_next h).start_eq]
  exact Nat.le_add_right ..

theorem all_isBlank_of_next_finish {cursor next : Cursor} (h : cursor.next = .finish next) :
    cursor.rest.all isBlank = true ∧ next = ⟨cursor.position + cursor.rest.length, []⟩ := by
  rcases next_cases cursor with ⟨hblank, hn⟩ | ⟨_, _, _, _, hn, -⟩ | ⟨_, _, hn, -⟩ <;>
    rw [hn] at h <;> cases h
  exact ⟨hblank, rfl⟩

theorem next_of_blank {cursor : Cursor} (h : cursor.rest.all isBlank = true) :
    cursor.next = .finish ⟨cursor.position + cursor.rest.length, []⟩ := by
  have hdrop : (cursor.rest ++ []).dropWhile isBlank = [] := dropWhile_append_of_stop h rfl
  have htake : (cursor.rest ++ []).takeWhile isBlank = cursor.rest := takeWhile_append_of_stop h rfl
  rw [List.append_nil] at hdrop htake
  simp only [Cursor.next, skipBlanks, past, htake, hdrop]

theorem Took.positions {cursor next : Cursor} {token : Token} {gap cs : List Char}
    (h : Took cursor token next gap cs) :
    cursor.position ≤ token.position ∧ token.position < next.position := by
  have hpos := List.length_pos_iff.mpr h.spells.ne_nil
  have := h.position
  have := h.advances
  omega

end Cursor

end Calculator
