import Calculator.Proofs.Decimal.Literal
import Calculator.Proofs.Token.Coverage
import Calculator.Proofs.Trap.Reading

/-!
# Numbers in a source

At a digit the lexer looks at the longest number that stands there (`LongestNumeric`) and at the
character behind it. The number is a token when it has at most one point and the character may
follow a number. Otherwise it is an error, and the character comes first (`next_number`). A number
with at most one point is one that can be read (`Decimal.isSome_read?_iff`), so the number of a
token always can.
-/

namespace Calculator

/-! ## Points -/

namespace Decimal

open Cursor

theorem count_point_of_all {cs : List Char} (h : cs.all isDigit = true) : cs.count '.' = 0 :=
  List.count_eq_zero.mpr (Text.notMem_of_all h rfl)

inductive Pointed : List Char → Prop
  | none {whole : List Char} : whole.all isDigit = true → Pointed whole
  | one {whole fraction : List Char} : whole.all isDigit = true → fraction.all isDigit = true →
      Pointed (whole ++ '.' :: fraction)
  | more {whole fraction rest : List Char} : whole.all isDigit = true →
      fraction.all isDigit = true → Pointed (whole ++ '.' :: (fraction ++ '.' :: rest))

theorem digits_or_point {cs : List Char} (h : cs.all isDigitOrPoint = true) :
    cs.all isDigit = true ∨ ∃ whole rest, cs = whole ++ '.' :: rest ∧ whole.all isDigit = true ∧
      rest.all isDigitOrPoint = true := by
  induction cs with
  | nil => exact .inl rfl
  | cons c cs ih =>
    simp only [List.all_cons, Bool.and_eq_true] at h
    obtain ⟨hc, hcs⟩ := h
    rcases Bool.or_eq_true_iff.mp hc with hc | hc
    · rcases ih hcs with hall | ⟨whole, rest, rfl, hwhole, hrest⟩
      · exact .inl (by simp [hc, hall])
      · exact .inr ⟨c :: whole, rest, rfl, by simp [hc, hwhole], hrest⟩
    · exact .inr ⟨[], cs, by rw [beq_iff_eq.mp hc]; rfl, rfl, hcs⟩

theorem pointed {cs : List Char} (h : cs.all isDigitOrPoint = true) : Pointed cs := by
  rcases digits_or_point h with hall | ⟨whole, rest, rfl, hwhole, hrest⟩
  · exact .none hall
  · rcases digits_or_point hrest with hall | ⟨fraction, more, rfl, hfraction, -⟩
    · exact .one hwhole hall
    · exact .more hwhole hfraction

theorem readExponent?_exponent {cs : List Char} (h : Exponent cs) :
    ∃ e, readExponent? cs = some e := by
  cases h with
  | none => exact ⟨0, rfl⟩
  | @unsigned mark digit digits hmark hdigit hdigits =>
    have hmark : mark = 'e' ∨ mark = 'E' := by simpa [isExponentMark] using hmark
    have hread : readDigits? (digit :: digits) = some (ofDigits (digit :: digits)) :=
      readDigits?_of_all (by simp) (by simp [hdigit, hdigits])
    refine ⟨ofDigits (digit :: digits), ?_⟩
    simp only [readExponent?, if_pos hmark]
    unfold readSigned?
    split
    · next heq =>
      cases heq
      cases hdigit
    · next heq =>
      cases heq
      cases hdigit
    · rw [hread]
      rfl
  | @signed mark sign digit digits hmark hsign hdigit hdigits =>
    have hmark : mark = 'e' ∨ mark = 'E' := by simpa [isExponentMark] using hmark
    have hread : readDigits? (digit :: digits) = some (ofDigits (digit :: digits)) :=
      readDigits?_of_all (by simp) (by simp [hdigit, hdigits])
    have hsign : sign = '+' ∨ sign = '-' := by simpa [isSign] using hsign
    simp only [readExponent?, if_pos hmark]
    rcases hsign with rfl | rfl <;> simp [readSigned?, hread]

theorem isSome_read?_iff {cs : List Char} (h : Numeric cs) :
    (read? cs).isSome = true ↔ cs.count '.' ≤ 1 := by
  obtain @⟨digit, mantissa, exponent, hdigit, hmantissa, hexponent⟩ := h
  obtain ⟨e, he⟩ := readExponent?_exponent hexponent
  have hcount : exponent.count '.' = 0 := List.count_eq_zero.mpr (hexponent.notMem rfl rfl rfl)
  have hall : (digit :: mantissa).all isDigitOrPoint = true := by
    simp [isDigitOrPoint, hdigit, hmantissa]
  have hpointed := pointed hall
  generalize hcs : digit :: mantissa = cs at hpointed
  have hfirst : ∀ rest, cs ≠ '.' :: rest := by
    rintro rest rfl
    cases hcs
    cases hdigit
  cases hpointed with
  | none hwhole =>
    have hread := (Literal.plain (by rintro rfl; cases hcs) hwhole hexponent he).read?
    simp [hread, count_point_of_all hwhole, hcount]
  | @one whole fraction hwhole hfraction =>
    have hne : whole ≠ [] := by
      rintro rfl
      exact hfirst _ rfl
    have hread := (Literal.pointed hne hwhole hfraction hexponent he).read?
    simp [hread, count_point_of_all hwhole, count_point_of_all hfraction, hcount]
  | @more whole fraction rest hwhole hfraction =>
    have hstop (ds : List Char) : ('.' :: ds).head?.any isDigit = false := rfl
    simp [read?, Text.takeWhile_append_of_stop hwhole (hstop _),
      Text.dropWhile_append_of_stop hwhole (hstop _), splitFraction,
      Text.takeWhile_append_of_stop hfraction (hstop _),
      Text.dropWhile_append_of_stop hfraction (hstop _), readExponent?,
      count_point_of_all hwhole, count_point_of_all hfraction, hcount]

end Decimal

namespace Cursor

/-! ## The longest number -/

/-- A number at the front of `cs` that no longer one stands at, and what follows it. -/
structure LongestNumeric (cs literal rest : List Char) : Prop where
  append_eq : cs = literal ++ rest
  numeric : Numeric literal
  length_le : ∀ other more, cs = other ++ more → Numeric other → other.length ≤ literal.length

theorem length_le_takeWhile {p : Char → Bool} {run : List Char} (h : run.all p = true)
    (rest : List Char) : run.length ≤ ((run ++ rest).takeWhile p).length := by
  rw [List.takeWhile_append_of_pos (List.all_eq_true.mp h)]
  simp

theorem length_le_splitExponent {exponent : List Char} (h : Exponent exponent) (rest : List Char) :
    exponent.length ≤ (splitExponent (exponent ++ rest)).1.length := by
  cases h with
  | none => exact Nat.zero_le _
  | unsigned hmark hdigit hdigits =>
    simpa [splitExponent, hmark, hdigit] using length_le_takeWhile hdigits rest
  | @signed _ _ digit digits hmark hsign hdigit hdigits =>
    have hall : (digit :: digits).all Decimal.isDigit = true := by simp [hdigit, hdigits]
    have := length_le_takeWhile hall rest
    simpa [splitExponent, hmark, hsign, hdigit, isDigit_of_isSign hsign] using this

theorem length_le_splitNumber {cs : List Char} (h : Numeric cs) (rest : List Char) :
    cs.length ≤ (splitNumber (cs ++ rest)).1.length := by
  obtain @⟨digit, mantissa, exponent, hdigit, hmantissa, hexponent⟩ := h
  have hall : (digit :: mantissa).all isDigitOrPoint = true := by
    simp [isDigitOrPoint, hdigit, hmantissa]
  have hrest := length_le_splitExponent hexponent rest
  rw [List.append_assoc, splitNumber_eq]
  by_cases hmark : (exponent ++ rest).head?.any isDigitOrPoint = false
  · rw [Text.takeWhile_append_of_stop hall hmark, Text.dropWhile_append_of_stop hall hmark]
    simp only [List.length_append]
    omega
  · cases hexponent with
    | none =>
      have := length_le_takeWhile hall rest
      simp only [List.length_append, List.length_nil, List.nil_append] at this ⊢
      omega
    | unsigned hm | signed hm => simp [isDigitOrPoint_of_isExponentMark hm] at hmark

theorem longestNumeric {c : Char} (h : Decimal.isDigit c = true) (cs : List Char) :
    LongestNumeric (c :: cs) (splitNumber (c :: cs)).1 (splitNumber (c :: cs)).2 := by
  refine ⟨(splitNumber_append _).symm, splitNumber_numeric h cs, ?_⟩
  intro other more heq hother
  rw [heq]
  exact length_le_splitNumber hother more

/-! ## What becomes of it -/

/-- Nothing follows a number, or a blank, an operator, a comma or a closing parenthesis. -/
def EndsNumber (rest : List Char) : Prop :=
  ∀ c, rest.head? = some c → Text.isBlank c = true ∨ c ∈ "+-*/%,)".toList

theorem mayFollowNumber_iff {rest : List Char} :
    rest.head?.all mayFollowNumber = true ↔ EndsNumber rest := by
  cases rest with
  | nil => simp [EndsNumber]
  | cons c rest =>
    simp only [EndsNumber, mayFollowNumber, isOperatorSymbol, List.head?_cons, Option.all_some,
      Option.some.injEq, forall_eq', Bool.or_eq_true, beq_iff_eq]
    simp
    tauto

/-- A step at the number `literal`, which stands at `start` and is followed by `rest`. -/
structure ReadsNumber (source : String) (start : Nat) (literal rest : List Char) (step : Step) :
    Prop where
  token_iff : (∃ value next, step = .token ⟨.number (String.ofList literal) value, start⟩ next) ↔
    literal.count '.' ≤ 1 ∧ EndsNumber rest
  /-- Whatever points the number has, the character behind it is at fault with it. -/
  format : ¬EndsNumber rest → ∃ error next, step = .fail error next ∧
    Problem.ofLexError source error = ⟨.lexing, s!"invalid number format at position {start}",
      source, start, (start + literal.length + 1 : Nat), true, false⟩
  invalid : EndsNumber rest → 2 ≤ literal.count '.' → ∃ error next, step = .fail error next ∧
    Problem.ofLexError source error =
      ⟨.lexing, s!"invalid number '{String.ofList literal}' at position {start}",
        source, start, (start + literal.length : Nat), true, false⟩

theorem number_reads (source : String) {cursor : Cursor} {c : Char} {cs : List Char}
    (hrest : cursor.rest = c :: cs) (hc : Decimal.isDigit c = true) :
    ReadsNumber source cursor.position (splitNumber cursor.rest).1 (splitNumber cursor.rest).2
      cursor.number := by
  have hnumeric : Numeric (splitNumber cursor.rest).1 := hrest ▸ splitNumber_numeric hc cs
  have hread := Decimal.isSome_read?_iff hnumeric
  simp only [number]
  generalize (splitNumber cursor.rest).1 = literal at *
  generalize (splitNumber cursor.rest).2 = rest at *
  by_cases hends : EndsNumber rest
  · rw [if_pos (mayFollowNumber_iff.mpr hends)]
    cases hdecimal : Decimal.read? literal with
    | some decimal =>
      rw [hdecimal] at hread
      have hcount : literal.count '.' ≤ 1 := hread.mp rfl
      constructor
      · simp [hcount, hends]
      · exact fun hnot => absurd hends hnot
      · intro _ hmore
        omega
    | none =>
      rw [hdecimal] at hread
      have hcount : ¬literal.count '.' ≤ 1 := fun hle => Bool.false_ne_true (hread.mpr hle)
      constructor
      · simp [hcount]
      · exact fun hnot => absurd hends hnot
      · intro _ _
        have hstop : LexError.stop source.length
            (.invalidNumber (String.ofList literal) cursor.position) =
              cursor.position + literal.length := by
          rw [LexError.stop, String.length_ofList]
        refine ⟨_, _, rfl, ?_⟩
        rw [Problem.ofLexError, hstop]
        rfl
  · rw [if_neg (fun hmay => hends (mayFollowNumber_iff.mp hmay))]
    constructor
    · simp [hends]
    · intro _
      exact ⟨_, _, rfl, rfl⟩
    · exact fun hpos => absurd hpos hends

theorem toNumber_of_next {cursor next : Cursor} {literal : String} {value : Binary64}
    {position : Nat} (h : cursor.next = .token ⟨.number literal value, position⟩ next) :
    (Trapping.toNumber literal.toList : Trapping ReadError Binary64) = .ok value := by
  obtain ⟨gap, cs, htook⟩ := took_of_next h
  exact Trapping.toNumber_of_spells htook.spells

/-- At a digit, the longest number there and the character behind it say what the lexer gives: a
token if the number has at most one point and may end there, and otherwise one of two errors. The
number of any token can be read. -/
theorem next_number (source : String) (cursor : Cursor) (h : Within source.toList cursor) :
    (cursor.skipBlanks.rest.head?.any Decimal.isDigit = true → ∃ literal rest,
      LongestNumeric (source.toList.drop cursor.skipBlanks.position) literal rest ∧
        ReadsNumber source cursor.skipBlanks.position literal rest cursor.next) ∧
    ∀ literal value position next, cursor.next = .token ⟨.number literal value, position⟩ next →
      (Trapping.toNumber literal.toList : Trapping ReadError Binary64) = .ok value := by
  constructor
  · intro hdigit
    rw [h.skipBlanks.drop_eq]
    cases hrest : cursor.skipBlanks.rest with
    | nil => simp [hrest] at hdigit
    | cons c cs =>
      have hc : Decimal.isDigit c = true := by simpa [hrest] using hdigit
      have hnext : cursor.next = cursor.skipBlanks.number := by
        simp only [Cursor.next, hrest, read, if_pos hc]
      have hreads := number_reads source hrest hc
      rw [hrest] at hreads
      rw [hnext]
      exact ⟨_, _, longestNumeric hc cs, hreads⟩
  · intro literal value position next hnext
    exact toNumber_of_next hnext

/-- Both errors are possible at this number: the letter behind it is the one that counts. -/
theorem next_number_two_points :
    Within " 1.2.3a".toList (start " 1.2.3a") ∧
    (start " 1.2.3a").skipBlanks.rest.head?.any Decimal.isDigit = true ∧
    ∃ literal rest, LongestNumeric (" 1.2.3a".toList.drop 1) literal rest ∧
      ReadsNumber " 1.2.3a" 1 literal rest (.fail (.numberFormat 1 5) ⟨6, ['a']⟩) := by
  have hdigit : (start " 1.2.3a").skipBlanks.rest.head?.any Decimal.isDigit = true := by
    decide +kernel
  have hnext : (start " 1.2.3a").next = .fail (.numberFormat 1 5) ⟨6, ['a']⟩ := by decide +kernel
  have h := (next_number " 1.2.3a" (start " 1.2.3a") (.start _)).1 hdigit
  rw [hnext] at h
  exact ⟨.start _, hdigit, h⟩

end Cursor

end Calculator
