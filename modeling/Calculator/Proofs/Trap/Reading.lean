import Calculator.Expr.Reader
import Calculator.Proofs.Token.Stream
import Calculator.Proofs.Trap.Literal

/-!
# Partial operations of reading

A number is read twice: the lexer only asks whether it can be read and turns the trap of a literal
with two points into an error of its own, and the parser reads it again, with no handler. No other
literals come to the parser (`revalue_tokens`), so this never traps.
-/

namespace Calculator.Trapping

variable {ε : Type}

/-! ## The lexer -/

def number (cursor : Cursor) : Trapping ε Cursor.Step :=
  let (literal, rest) := Cursor.splitNumber cursor.rest
  let next := cursor.past literal rest
  if rest.head?.all Cursor.mayFollowNumber then
    handle [.invalidValue]
      (do
        let value ← toNumber literal
        .ok (.token ⟨.number (String.ofList literal) value, cursor.position⟩ next))
      (.ok (.fail (.invalidNumber (String.ofList literal) cursor.position) next))
  else .ok (.fail (.numberFormat cursor.position literal.length) next)

def next (cursor : Cursor) : Trapping ε Cursor.Step :=
  let cursor := cursor.skipBlanks
  match cursor.rest with
  | [] => .ok (.finish cursor)
  | c :: cs => if Decimal.isDigit c then number cursor else .ok (cursor.read c cs)

theorem number_eq {cursor : Cursor} {c : Char} {cs : List Char} (hrest : cursor.rest = c :: cs)
    (hc : Decimal.isDigit c = true) :
    (number cursor : Trapping ε Cursor.Step) = .ok cursor.number := by
  have hnumeric := Cursor.splitNumber_numeric hc cs
  rw [← hrest] at hnumeric
  simp only [number, Cursor.number]
  split
  · rw [toNumber, toNumber?_numeric hnumeric]
    cases Decimal.read? (Cursor.splitNumber cursor.rest).1 with
    | none => exact handle_trap (by decide) _
    | some decimal => rfl
  · rfl

theorem next_eq (cursor : Cursor) : (next cursor : Trapping ε Cursor.Step) = .ok cursor.next := by
  simp only [next, Cursor.next]
  cases hrest : cursor.skipBlanks.rest with
  | nil => rfl
  | cons c cs =>
    by_cases hc : Decimal.isDigit c = true
    · simp only [Cursor.read, if_pos hc, number_eq hrest hc]
    · simp only [if_neg hc]

def tokens (cursor : Cursor) : Trapping ε Tokens :=
  match _ : (next cursor : Trapping ε Cursor.Step) with
  | .ok (.token token next) => do
    let ahead ← tokens next
    .ok (.cons token ahead)
  | .ok (.finish next) => .ok (.finish next.position)
  | .ok (.fail error next) => .ok (.fail error next)
  | .error failure => .error failure
termination_by cursor.rest.length
decreasing_by
  next h =>
    rw [next_eq] at h
    exact Cursor.next_token_lt (Except.ok.inj h)

theorem tokens_eq (cursor : Cursor) : (tokens cursor : Trapping ε Tokens) = .ok cursor.tokens := by
  fun_induction Cursor.tokens cursor with
  | case1 cursor token next hnext ih =>
    rw [tokens]
    split <;> simp_all [next_eq]
  | case2 cursor next hnext =>
    rw [tokens]
    split <;> simp_all [next_eq]
  | case3 cursor error next hnext =>
    rw [tokens]
    split <;> simp_all [next_eq]

/-! ## The parser -/

/-- The numbers of a stream as the parser makes them of their literals. -/
def revalue : Tokens → Trapping ε Tokens
  | .cons ⟨.number literal _, position⟩ ahead => do
    let value ← toNumber literal.toList
    let ahead ← revalue ahead
    .ok (.cons ⟨.number literal value, position⟩ ahead)
  | .cons token ahead => do
    let ahead ← revalue ahead
    .ok (.cons token ahead)
  | .finish position => .ok (.finish position)
  | .fail error resume => .ok (.fail error resume)

theorem toNumber_of_spells {cs : List Char} {literal : String} {value : Binary64}
    (h : Cursor.Spells cs (.number literal value)) :
    (toNumber literal.toList : Trapping ε Binary64) = .ok value := by
  obtain ⟨decimal, hnumeric, hread, rfl, rfl⟩ := h.of_number
  rw [String.toList_ofList, toNumber, toNumber?_numeric hnumeric, hread]
  rfl

theorem revalue_tokens {tokens : Tokens}
    (h : ∀ token ∈ tokens.toList, ∃ cs, Cursor.Spells cs token.lexeme) :
    (revalue tokens : Trapping ε Tokens) = .ok tokens := by
  induction tokens with
  | finish | fail => rfl
  | cons token ahead ih =>
    obtain ⟨⟨cs, hspells⟩, hahead⟩ := List.forall_mem_cons.mp h
    obtain ⟨lexeme, position⟩ := token
    cases lexeme with
    | number literal value =>
      rw [revalue, toNumber_of_spells hspells, ok_bind, ih hahead]
      rfl
    | _ =>
      rw [revalue, ih hahead]
      · rfl
      · simp

def read (limit : Nat) (source : String) : Trapping ReadError (Option Expr) :=
  handle [.recursion]
    (do
      let tokens ← tokens (Cursor.start source)
      let tokens ← revalue tokens
      limited (.grammatical .tooDeep) (Reader.readAll (some limit) tokens).1)
    (raise (.grammatical .tooDeep))

theorem read_eq (limit : Nat) (source : String) :
    read limit source = contained (Expr.read (some limit) source) := by
  have htokens : (revalue (Cursor.start source).tokens : Trapping ReadError Tokens) =
      .ok (Tokens.ofSource source) := revalue_tokens fun _ => Tokens.spells_of_mem
  rw [read, tokens_eq, ok_bind, htokens, ok_bind]
  exact handle_limited _ _

end Calculator.Trapping
