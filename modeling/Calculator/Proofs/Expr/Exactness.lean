import Calculator.Proofs.Expr.Outcome

/-!
# Reading is exactly the grammar

For a source without lexical errors whose nesting is not refused, the reader returns the one tree
that the grammar derives from its lexemes, nothing when there are none, and an error of grammar when
no tree is derived (`read_iff_derives`).
-/

namespace Calculator.Reader

theorem not_derives_of_walk_none {ls : List Lexeme} (h : State.start.walk none ls = none)
    (e : Expr) : ¬ Derives .expression ls e := by
  intro hd
  obtain ⟨last, hwalk, -⟩ := derives_iff_walk.mp hd
  rw [h] at hwalk
  cases hwalk

theorem not_derives_of_open {ls : List Lexeme} {last : State}
    (h : State.start.walk none ls = some last) (hopen : last.phrase? = none) (e : Expr) :
    ¬ Derives .expression ls e := by
  intro hd
  obtain ⟨last', hwalk, he⟩ := derives_iff_walk.mp hd
  obtain rfl := Option.some.inj (h.symm.trans hwalk)
  rw [hopen] at he
  cases he

theorem walk_none_of_refused {limit : Option Nat} {front : List Lexeme} {last : State} {l : Lexeme}
    (h : State.start.walk limit front = some last) (hstep : last.step l = none)
    (more : List Lexeme) : State.start.walk none (front ++ l :: more) = none := by
  rw [State.walk_append_of_eq (State.walk_none_of_walk h), State.walk_none_cons, hstep]
  rfl

theorem readAll_cases {tokens : Tokens} {limit : Option Nat} {stop : Nat}
    (hlex : tokens.ending = .ok stop)
    (hdeep : (readAll limit tokens).1 ≠ .error (.grammatical .tooDeep)) :
    (tokens.lexemes = [] ∧ (readAll limit tokens).1 = .ok none) ∨
    (∃ e, Derives .expression tokens.lexemes e ∧ (readAll limit tokens).1 = .ok (some e)) ∨
    ∃ error, tokens.lexemes ≠ [] ∧ (∀ e, ¬ Derives .expression tokens.lexemes e) ∧
      (readAll limit tokens).1 = .error (.grammatical error) := by
  by_cases hblank : ∃ position, tokens = .finish position
  · obtain ⟨position, rfl⟩ := hblank
    exact .inl ⟨rfl, rfl⟩
  · have hne : ∀ position, tokens ≠ .finish position := fun position h => hblank ⟨position, h⟩
    obtain ⟨front, rest, last, rfl, hwalk, hhalts⟩ := readAll_halts limit hne
    generalize hresult : (readAll limit (.after front rest)).1 = result at hhalts hdeep
    have hnone := State.walk_none_of_walk hwalk
    cases hhalts with
    | finished position he =>
      refine .inr (.inl ⟨_, ?_, rfl⟩)
      simpa using derives_iff_walk.mpr ⟨last, hnone, he⟩
    | unfinished position he =>
      refine .inr (.inr ⟨_, ?_, ?_, rfl⟩)
      · intro hnil
        cases front with
        | nil => exact hne position rfl
        | cons => simp at hnil
      · simpa using not_derives_of_open hnone he
    | lexical => simp [Tokens.ending] at hlex
    | refused token ahead hstep =>
      refine .inr (.inr ⟨_, by simp, ?_, rfl⟩)
      simpa using not_derives_of_walk_none (walk_none_of_refused hwalk hstep ahead.lexemes)
    | tooDeep => exact absurd rfl hdeep

theorem derives_ne_nil {e : Expr} : ¬ Derives .expression [] e :=
  not_derives_of_open (State.walk_nil _ _) rfl e

/-- What the reader returns for a source without lexical errors whose nesting is not refused. The
tree is the only one that is derived, and its words are those of the source in the same order. -/
theorem read_iff_derives (limit : Option Nat) (source : String) (stop : Nat)
    (hlex : (Tokens.ofSource source).ending = .ok stop)
    (hdeep : Expr.read limit source ≠ .error (.grammatical .tooDeep)) :
    (Expr.read limit source = .ok none ↔ (Tokens.ofSource source).lexemes = []) ∧
    (∀ e, Expr.read limit source = .ok (some e) ↔
      Derives .expression (Tokens.ofSource source).lexemes e) ∧
    ((∃ error, Expr.read limit source = .error (.grammatical error)) ↔
      (Tokens.ofSource source).lexemes ≠ [] ∧
        ∀ e, ¬ Derives .expression (Tokens.ofSource source).lexemes e) ∧
    (∀ e e', Derives .expression (Tokens.ofSource source).lexemes e →
      Derives .expression (Tokens.ofSource source).lexemes e' → e = e') ∧
    ∀ e, Derives .expression (Tokens.ofSource source).lexemes e →
      e.words = (Tokens.ofSource source).lexemes.filterMap Lexeme.word? := by
  have hunique : ∀ e e', Derives .expression (Tokens.ofSource source).lexemes e →
      Derives .expression (Tokens.ofSource source).lexemes e' → e = e' := fun _ _ => Derives.unique
  refine ⟨?_, ?_, ?_, hunique, fun e => Derives.words_eq⟩ <;>
    unfold Expr.read at hdeep ⊢ <;>
    rcases readAll_cases hlex hdeep with ⟨hnil, h⟩ | ⟨e, hd, h⟩ | ⟨error, hne, hnot, h⟩ <;>
    rw [h]
  · simp [hnil]
  · have : (Tokens.ofSource source).lexemes ≠ [] := fun hnil => derives_ne_nil (hnil ▸ hd)
    simp [this]
  · simp [hne]
  · simp [hnil, derives_ne_nil]
  · intro e'
    constructor
    · rintro ⟨⟩
      exact hd
    · intro hd'
      rw [hunique e e' hd hd']
  · simp [hnot]
  · simp [hnil]
  · simp only [reduceCtorEq, exists_false, false_iff, not_and]
    exact fun _ hnot => hnot e hd
  · simp only [Except.error.injEq, ReadError.grammatical.injEq, exists_eq', true_iff]
    exact ⟨hne, hnot⟩

theorem read_iff_derives_call :
    (Tokens.ofSource "-f(\"a\")").ending = .ok 7 ∧
    Expr.read (some nestingLimit) "-f(\"a\")" ≠ .error (.grammatical .tooDeep) ∧
    Expr.read (some nestingLimit) "-f(\"a\")" =
      .ok (some (.signed .minus (.call "f" [.text "a"]))) := by
  have hlex : (Tokens.ofSource "-f(\"a\")").ending = .ok 7 := eq_ok_of_toOption (by decide +kernel)
  have hdeep : Expr.read (some nestingLimit) "-f(\"a\")" ≠ .error (.grammatical .tooDeep) := by
    intro h
    have : (Expr.read (some nestingLimit) "-f(\"a\")").toOption.isSome = true := by decide +kernel
    rw [h] at this
    cases this
  have hls : (Tokens.ofSource "-f(\"a\")").lexemes =
      [.operator (.sum .minus), .name "f", .openParen, .text "a", .closeParen] := by decide +kernel
  refine ⟨hlex, hdeep, ((read_iff_derives _ _ _ hlex hdeep).2.1 _).mpr ?_⟩
  rw [hls]
  exact .term (.factor (.signed .minus (.call "f" [([.text "a"], .text "a")]
    (List.forall_mem_singleton.mpr (.term (.factor (.text "a")))))))

end Calculator.Reader
