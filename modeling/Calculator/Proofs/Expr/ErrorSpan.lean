import Calculator.Proofs.Expr.Outcome
import Calculator.Proofs.Text.Lowercase
import Calculator.Proofs.Token.Coverage
import Calculator.Report.Diagnosis

/-!
# Where an error of grammar is

An error of grammar starts where its token starts, and its span is as long as the token is shown.
This is how far the token reaches in the source unless it is shown otherwise than it is written: a
text is shown without its quotation marks, and a capital I with a dot above counts twice in a name
(`Lexeme.overhang`). `spans_of_read` says where every such error starts and ends.
-/

namespace Calculator

/-! ## Tokens as they are shown -/

namespace Lexeme

/-- How far a lexeme that was read from `cs` reaches beyond these characters when it is shown. What
is shown counts as one character at least. -/
def overhang (cs : List Char) : Lexeme → Int
  | .text content => if content.toList = [] then -1 else -2
  | .name _ => cs.count '\u0130'
  | _ => 0

theorem max_shown_length {cs rest : List Char} {l : Lexeme} (h : l.StandsAs cs rest)
    (hne : cs ≠ []) : (max l.shown.length 1 : Nat) = cs.length + l.overhang cs := by
  have hpos := List.length_pos_iff.mpr hne
  have hsame (hcs : cs = l.shown.toList) : max l.shown.length 1 = cs.length := by
    rw [← String.length_toList, ← hcs]
    omega
  cases l with
  | text content =>
    obtain ⟨rfl, -⟩ := h
    have hlength : content.length = content.toList.length := String.length_toList.symm
    simp only [shown, overhang, hlength]
    split
    · next hempty => simp [hempty]
    · next hfull =>
      have := List.length_pos_iff.mpr hfull
      simp only [List.length_cons, List.length_append, List.length_nil]
      omega
  | name lowered =>
    obtain ⟨rfl, -⟩ := h
    simp only [shown, String.length_ofList, Text.length_lower, overhang]
    omega
  | operator | openParen | closeParen | comma | number => simp [overhang, hsame h]

theorem overhang_eq_zero_iff {cs : List Char} {l : Lexeme} :
    l.overhang cs = 0 ↔
      (∀ content, l ≠ .text content) ∧ ∀ lowered, l = .name lowered → '\u0130' ∉ cs := by
  cases l with
  | text content =>
    simp only [overhang]
    split <;> simp
  | name lowered => simp [overhang, List.count_eq_zero]
  | operator | openParen | closeParen | comma | number => simp [overhang]

end Lexeme

/-! ## Problems that span some characters -/

theorem Problem.underline_length {problem : Problem} (h : problem.start < problem.stop) :
    (problem.underline.length : Int) = problem.stop - problem.start := by
  simp only [underline, shownStop, String.length_ofList, List.length_cons, List.length_replicate]
  omega

theorem Text.place_natCast {length n : Nat} (h : n ≤ length) : place length n = n := by
  rw [place, if_neg (by omega)]
  omega

theorem Text.slice_of_drop {cs part rest : List Char} {start : Nat}
    (h : cs.drop start = part ++ rest) (hle : start ≤ cs.length) :
    slice start (start + part.length : Nat) cs = part := by
  have hlength := congrArg List.length h
  simp only [List.length_drop, List.length_append] at hlength
  have hstop : start + part.length ≤ cs.length := by omega
  rw [slice, place_natCast hle, place_natCast hstop, List.drop_take, h, Nat.add_sub_cancel_left,
    List.take_left]

namespace Reader

/-! ## Spans -/

/-- A token as the lexer took it from a source, and the problem that it is reported with. -/
structure Marks (source : String) (token : Token) (next : Cursor) (cs : List Char)
    (problem : Problem) : Prop where
  /-- The characters of the token, and what stands behind them. -/
  drop_eq : source.toList.drop token.position = cs ++ source.toList.drop next.position
  next_eq : next.position = token.position + cs.length
  standsAs : token.lexeme.StandsAs cs (source.toList.drop next.position)
  source_eq : problem.source = source
  start_eq : problem.start = token.position
  stop_eq : problem.stop = next.position + token.lexeme.overhang cs
  /-- So many characters are underlined. -/
  underline_length : (problem.underline.length : Int) = cs.length + token.lexeme.overhang cs
  /-- The span ends with the token if it is no text, nor a name with a letter that is lengthened. -/
  exact_iff : problem.stop = next.position ↔
    (∀ content, token.lexeme ≠ .text content) ∧
      ∀ lowered, token.lexeme = .name lowered → '\u0130' ∉ cs
  slice_eq : problem.stop = next.position →
    Text.slice problem.start problem.stop source.toList = cs

/-- Where an error of grammar starts and ends that is not about nesting. -/
inductive Spans (source : String) : ParseError → Prop
  /-- The token is the one that a call of the lexer gives. -/
  | token {n : Nat} {token : Token} {next : Cursor} {cs : List Char} (expected : Option Kind) :
      (Cursor.advance^[n] (Cursor.start source)).next = .token token next →
      Marks source token next cs (.ofParseError source (.unexpected token expected)) →
      Spans source (.unexpected token expected)
  | finish (expected : Option Kind) :
      Problem.ofParseError source (.unexpectedEnd source.length expected) =
        ⟨.parsing, ParseError.message (.unexpectedEnd source.length expected), source,
          source.length, (source.length + 1 : Nat), true, false⟩ →
      Spans source (.unexpectedEnd source.length expected)

theorem marks_of_covers {source : String} {cursor next : Cursor} {token : Token}
    (expected : Option Kind) (h : Cursor.Covers source.toList cursor (.token token next)) :
    ∃ cs, Marks source token next cs (.ofParseError source (.unexpected token expected)) := by
  cases h with
  | @token _ _ gap cs hdrop _ hposition hne hnext hle hstands =>
    have hahead : source.toList.drop token.position = cs ++ source.toList.drop next.position := by
      rw [hposition, ← List.drop_drop, hdrop, List.drop_left]
    have hshown := Lexeme.max_shown_length hstands hne
    let problem := Problem.ofParseError source (.unexpected token expected)
    have hstop : problem.stop = next.position + token.lexeme.overhang cs := by
      have : problem.stop = (token.position + max token.lexeme.shown.length 1 : Nat) := rfl
      omega
    refine ⟨cs, hahead, hnext, hstands, rfl, rfl, hstop, ?_, ?_, ?_⟩
    · have hstart : problem.start = token.position := rfl
      have hlength : (problem.underline.length : Int) = problem.stop - problem.start :=
        Problem.underline_length (by omega)
      exact hlength.trans (by omega)
    · rw [← Lexeme.overhang_eq_zero_iff]
      change problem.stop = next.position ↔ token.lexeme.overhang cs = 0
      omega
    · intro (hexact : problem.stop = next.position)
      have hend : problem.stop = (token.position + cs.length : Nat) := by omega
      have hfits : token.position ≤ source.toList.length := by omega
      change Text.slice token.position problem.stop source.toList = cs
      rw [hend, Text.slice_of_drop hahead hfits]

/-- The span of every error of grammar: it starts with its token, and ends with it unless the token
is shown longer or shorter than it is written. At the end it is one character behind the source. -/
theorem spans_of_read (limit : Option Nat) (source : String) (error : ParseError)
    (h : Expr.read limit source = .error (.grammatical error)) (hdeep : error ≠ .tooDeep) :
    Spans source error := by
  have hne : Expr.read limit source ≠ .ok none := by simp [h]
  obtain ⟨front, rest, last, htokens, -, hhalts⟩ := read_halts hne
  rw [h] at hhalts
  cases hhalts with
  | unfinished position =>
    have hending : (Tokens.ofSource source).ending = .ok position := by
      simp [htokens, Tokens.ending]
    obtain rfl := Tokens.stop_of_ending hending
    exact .finish _ rfl
  | refused token ahead =>
    have hlength : front.length < (Tokens.ofSource source).toList.length := by
      simp [htokens, Tokens.toList]
    obtain ⟨next, hnext⟩ := (Cursor.iterated_ofSource source).token_at _ hlength
    have htoken : (Tokens.ofSource source).toList[front.length] = token := by
      simp [htokens, Tokens.toList]
    rw [htoken] at hnext
    have hcovers := ((Cursor.Within.start source).iterate front.length).covers.1
    rw [hnext] at hcovers
    obtain ⟨cs, hmarks⟩ := marks_of_covers last.expected hcovers
    exact .token _ hnext hmarks
  | tooDeep => exact absurd rfl hdeep

/-- The name is a single character of the source, and two are underlined. -/
theorem spans_of_read_dotted :
    Expr.read (some nestingLimit) "1 \u0130" =
      .error (.grammatical (.unexpected ⟨.name "i\u0307", 2⟩ none)) ∧
    Spans "1 \u0130" (.unexpected ⟨.name "i\u0307", 2⟩ none) ∧
    (Problem.ofParseError "1 \u0130" (.unexpected ⟨.name "i\u0307", 2⟩ none)).underline = "^~" := by
  have h : Expr.read (some nestingLimit) "1 \u0130" =
      .error (.grammatical (.unexpected ⟨.name "i\u0307", 2⟩ none)) :=
    eq_error_of_decide (by decide +kernel)
  exact ⟨h, spans_of_read _ _ _ h (by decide), by decide +kernel⟩

/-- The text reaches from position 2 to position 7 of the source, and its span to position 5. -/
theorem spans_of_read_not_text :
    Expr.read (some nestingLimit) "1 \"abc\"" =
      .error (.grammatical (.unexpected ⟨.text "abc", 2⟩ none)) ∧
    (Cursor.start "1 \"abc\"").advance.next = .token ⟨.text "abc", 2⟩ ⟨7, []⟩ ∧
    (Problem.ofParseError "1 \"abc\"" (.unexpected ⟨.text "abc", 2⟩ none)).stop = 5 := by
  refine ⟨eq_error_of_decide ?_, ?_, ?_⟩ <;> decide +kernel

end Reader

end Calculator
