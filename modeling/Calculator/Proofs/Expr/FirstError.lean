import Calculator.Proofs.Expr.Exactness

/-!
# The first error is the one that is reported

Whatever has been read can be completed: an operand, the parentheses of a call, and closing
parentheses bring every state to the end of an expression (`viable_of_walk`). So the lexemes before
an error could have been the start of an expression, and those up to the error could not
(`firstError_of_read`). A lexical error behind the token at fault is never met.
-/

namespace Calculator.Reader

/-- Further lexemes, each of which a source can spell, make an expression of these. -/
def Viable (ls : List Lexeme) : Prop :=
  ∃ more e, (∀ l ∈ more, ∃ cs, Cursor.Spells cs l) ∧ Derives .expression (ls ++ more) e

/-! ## Completion -/

def zeroLexeme : Lexeme :=
  .number "0" (.zero false)

theorem spells_zeroLexeme : Cursor.Spells ['0'] zeroLexeme := by
  have hread : Decimal.read? ['0'] = some ⟨0, 0⟩ := by decide
  have hnumeric : Cursor.Numeric (['0'] ++ []) := .intro (by decide) rfl .none
  exact .number hnumeric hread

def closing (outer : List Enclosure) : List Lexeme :=
  List.replicate outer.length .closeParen

def State.completion : State → List Lexeme
  | .operand _ outer => zeroLexeme :: closing outer
  | .callee _ _ outer => .openParen :: .closeParen :: closing outer
  | .firstArgument _ _ outer => .closeParen :: closing outer
  | .operator _ _ outer => closing outer

theorem State.completion_spelled (state : State) :
    ∀ l ∈ state.completion, ∃ cs, Cursor.Spells cs l := by
  have hopen : ∃ cs, Cursor.Spells cs .openParen := ⟨['('], .symbol rfl⟩
  have hclose : ∃ cs, Cursor.Spells cs .closeParen := ⟨[')'], .symbol rfl⟩
  have hclosing : ∀ outer, ∀ l ∈ closing outer, ∃ cs, Cursor.Spells cs l := by
    intro outer l hl
    rw [List.eq_of_mem_replicate hl]
    exact hclose
  cases state with
  | operand => exact List.forall_mem_cons.mpr ⟨⟨_, spells_zeroLexeme⟩, hclosing _⟩
  | callee =>
    exact List.forall_mem_cons.mpr ⟨hopen, List.forall_mem_cons.mpr ⟨hclose, hclosing _⟩⟩
  | firstArgument => exact List.forall_mem_cons.mpr ⟨hclose, hclosing _⟩
  | operator => exact hclosing _

theorem walk_closing (outer : List Enclosure) (value : Expr) (sum : Option (Expr × Sign)) :
    ∃ last e, (State.operator value sum outer).walk none (closing outer) = some last ∧
      last.phrase? = some e := by
  induction outer generalizing value sum with
  | nil => exact ⟨_, closeSum sum value, rfl, rfl⟩
  | cons enclosure outer ih =>
    obtain ⟨bracket, pending⟩ := enclosure
    simp only [closing, List.length_cons, List.replicate_succ, State.walk_none_cons]
    cases bracket with
    | group => exact ih _ _
    | call => exact ih _ _

theorem State.walk_completion (state : State) :
    ∃ last e, state.walk none state.completion = some last ∧ last.phrase? = some e := by
  cases state with
  | operand => exact walk_closing ..
  | callee => exact walk_closing ..
  | firstArgument => exact walk_closing ..
  | operator => exact walk_closing ..

theorem viable_of_walk {limit : Option Nat} {ls : List Lexeme} {state : State}
    (h : State.start.walk limit ls = some state) : Viable ls := by
  obtain ⟨last, e, hwalk, he⟩ := state.walk_completion
  refine ⟨state.completion, e, state.completion_spelled, derives_iff_walk.mpr ⟨last, ?_, he⟩⟩
  rw [State.walk_append_of_eq (State.walk_none_of_walk h), hwalk]

/-! ## The first error -/

/-- An error that no other error of the source precedes, of grammar or lexical. What is said of
lexemes holds in the grammar alone, whatever the reader does. -/
inductive FirstError (limit : Option Nat) (source : String) : ReadError → Prop
  /-- Reading the tokens one after the other meets this error first, and they are no error. -/
  | lexical (error : LexError) : (Tokens.ofSource source).ending = .error error →
      (∀ token ∈ (Tokens.ofSource source).toList, token.position < error.start) →
      Viable (Tokens.ofSource source).lexemes →
      FirstError limit source (.lexical error)
  /-- No expression starts with the lexemes up to the token. What follows the token is not looked
  at: it may be replaced by anything. -/
  | unexpected {front : List Token} {token : Token} {ahead : Tokens} {expected : Option Kind} :
      Tokens.ofSource source = .after front (.cons token ahead) →
      (∀ error, (Tokens.ofSource source).ending = .error error → token.position < error.start) →
      Viable (front.map Token.lexeme) →
      (∀ more e, ¬ Derives .expression (front.map Token.lexeme ++ token.lexeme :: more) e) →
      (∀ other, (readAll limit (.after front (.cons token other))).1 =
        .error (.grammatical (.unexpected token expected))) →
      FirstError limit source (.grammatical (.unexpected token expected))
  /-- The lexemes of the source are not all of an expression. -/
  | unexpectedEnd {front : List Token} {expected : Option Kind} :
      Tokens.ofSource source = .after front (.finish source.length) →
      front ≠ [] → Viable (front.map Token.lexeme) →
      (∀ e, ¬ Derives .expression (front.map Token.lexeme) e) →
      FirstError limit source (.grammatical (.unexpectedEnd source.length expected))

theorem firstError_of_read (limit : Option Nat) (source : String) (error : ReadError)
    (h : Expr.read limit source = .error error) (hdeep : error ≠ .grammatical .tooDeep) :
    FirstError limit source error := by
  have hne : ∀ position, Tokens.ofSource source ≠ .finish position := by
    intro position hfinish
    rw [Expr.read, hfinish, readAll_finish] at h
    cases h
  obtain ⟨front, rest, last, htokens, hwalk, hhalts⟩ := readAll_halts limit hne
  rw [← Expr.read, h] at hhalts
  have hviable := viable_of_walk hwalk
  cases hhalts with
  | unfinished position he =>
    have hending : (Tokens.ofSource source).ending = .ok position := by
      rw [htokens, Tokens.ending_after]
      rfl
    obtain rfl := Tokens.stop_of_ending hending
    have hopen := not_derives_of_open (State.walk_none_of_walk hwalk) he
    refine .unexpectedEnd htokens ?_ hviable hopen
    rintro rfl
    exact hne _ htokens
  | lexical error resume =>
    have hending : (Tokens.ofSource source).ending = .error error := by
      rw [htokens, Tokens.ending_after]
      rfl
    refine .lexical error hending (fun token => Tokens.position_lt_of_ending hending) ?_
    simpa [htokens] using hviable
  | refused token ahead hstep =>
    have hmem : token ∈ (Tokens.ofSource source).toList := by simp [htokens, Tokens.toList]
    refine .unexpected htokens (fun error hending => Tokens.position_lt_of_ending hending hmem)
      hviable (fun more => not_derives_of_walk_none (walk_none_of_refused hwalk hstep more)) ?_
    intro other
    refine readAll_of_halts ?_ hwalk (.refused token other hstep)
    cases front <;> simp
  | tooDeep => exact absurd rfl hdeep

/-- The name is refused, and the character that no lexeme starts with is never met. -/
theorem firstError_of_read_before_lexical :
    Expr.read (some nestingLimit) "\"a\" f @" =
      .error (.grammatical (.unexpected ⟨.name "f", 4⟩ none)) ∧
    FirstError (some nestingLimit) "\"a\" f @"
      (.grammatical (.unexpected ⟨.name "f", 4⟩ none)) := by
  have h : Expr.read (some nestingLimit) "\"a\" f @" =
      .error (.grammatical (.unexpected ⟨.name "f", 4⟩ none)) :=
    eq_error_of_decide (by decide +kernel)
  exact ⟨h, firstError_of_read _ _ _ h (by decide)⟩

end Calculator.Reader
