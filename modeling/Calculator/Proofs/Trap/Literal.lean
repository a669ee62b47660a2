import Calculator.Numeral
import Calculator.Proofs.Token.Spelling
import Calculator.Proofs.Trap.Basic
import Calculator.Text.Integer

/-!
# Reading numbers

Numbers are read by an operation that accepts more than the literals of the language: margins,
digits of every script, underscores between digits, and words for infinity and not-a-number. It
traps on anything else. On the characters of literals it is the reading of literals
(`toNumber?_literal`).
-/

namespace Calculator

namespace Trapping

def plainDigit (c : Char) : Char :=
  match Text.decimalDigit? c with
  | some d => Numeral.symbol d
  | none => c

/-- Every underscore is between two digits. -/
def separatorsFit (before : Option Char) : List Char → Bool
  | [] => true
  | c :: cs =>
    (c != '_' || before.any Decimal.isDigit && cs.head?.any Decimal.isDigit) &&
      separatorsFit (some c) cs

/-- A word for a number that has no digits, of either case and possibly with a sign. -/
def numberWord? (cs : List Char) : Option Binary64 :=
  let word := (if cs.head?.any Cursor.isSign then cs.tail else cs).map Char.toLower
  if word = "inf".toList ∨ word = "infinity".toList then some (.infinite (cs.head? == some '-'))
  else if word = "nan".toList then some .nan
  else none

def toNumber? (cs : List Char) : Option Binary64 :=
  let cs := (Text.trimMargins cs).map plainDigit
  if separatorsFit none cs then
    let cs := cs.filter (· != '_')
    Binary64.read? cs <|> numberWord? cs
  else none

def toNumber {ε : Type} (cs : List Char) : Trapping ε Binary64 :=
  demand .invalidValue (toNumber? cs)

/-! ## The characters of literals -/

def literalChars : List Char :=
  "0123456789.eE+-".toList

theorem literalChars_plain : (literalChars.all fun c =>
    plainDigit c == c && !Text.isMargin c && c != '_' && c.toLower != 'n') = true := by
  decide +kernel

theorem mem_literalChars_of_isDigit {c : Char} (h : Decimal.isDigit c = true) :
    c ∈ literalChars := by
  have hall : ∀ c : Char, c.toNat < 0x3A → Decimal.isDigit c = true → c ∈ literalChars :=
    Text.forall_char_lt (by decide)
  have hle : c ≤ '9' := of_decide_eq_true (Bool.and_eq_true_iff.mp h).2
  exact hall c (Text.toNat_lt_of_le hle (by decide)) h

theorem mem_literalChars_of_isDigitOrPoint {c : Char} (h : Cursor.isDigitOrPoint c = true) :
    c ∈ literalChars := by
  rcases Bool.or_eq_true_iff.mp h with h | h
  · exact mem_literalChars_of_isDigit h
  · rw [beq_iff_eq.mp h]
    decide

theorem mem_literalChars_of_isExponentMark {c : Char} (h : Cursor.isExponentMark c = true) :
    c ∈ literalChars := by
  rcases Bool.or_eq_true_iff.mp h with h | h <;> rw [beq_iff_eq.mp h] <;> decide

theorem mem_literalChars_of_isSign {c : Char} (h : Cursor.isSign c = true) : c ∈ literalChars := by
  rcases Bool.or_eq_true_iff.mp h with h | h <;> rw [beq_iff_eq.mp h] <;> decide

theorem digits_literal {cs : List Char} (h : cs.all Decimal.isDigit = true) :
    ∀ c ∈ cs, c ∈ literalChars :=
  fun c hc => mem_literalChars_of_isDigit (List.all_eq_true.mp h c hc)

theorem exponent_literal {cs : List Char} (h : Cursor.Exponent cs) :
    ∀ c ∈ cs, c ∈ literalChars := by
  cases h with
  | none => exact List.forall_mem_nil _
  | unsigned hmark hdigit hdigits =>
    exact List.forall_mem_cons.mpr ⟨mem_literalChars_of_isExponentMark hmark,
      List.forall_mem_cons.mpr ⟨mem_literalChars_of_isDigit hdigit, digits_literal hdigits⟩⟩
  | signed hmark hsign hdigit hdigits =>
    exact List.forall_mem_cons.mpr ⟨mem_literalChars_of_isExponentMark hmark,
      List.forall_mem_cons.mpr ⟨mem_literalChars_of_isSign hsign,
        List.forall_mem_cons.mpr ⟨mem_literalChars_of_isDigit hdigit, digits_literal hdigits⟩⟩⟩

theorem numeric_literal {cs : List Char} (h : Cursor.Numeric cs) : ∀ c ∈ cs, c ∈ literalChars := by
  obtain ⟨hdigit, hmantissa, hexponent⟩ := h
  rw [List.cons_append]
  refine List.forall_mem_cons.mpr ⟨mem_literalChars_of_isDigit hdigit, ?_⟩
  refine List.forall_mem_append.mpr ⟨fun c hc => ?_, exponent_literal hexponent⟩
  exact mem_literalChars_of_isDigitOrPoint (List.all_eq_true.mp hmantissa c hc)

theorem readDigits?_literal {cs : List Char} (h : (Decimal.readDigits? cs).isSome = true) :
    ∀ c ∈ cs, c ∈ literalChars := by
  unfold Decimal.readDigits? at h
  split at h
  · cases h
  · next hall => exact digits_literal (by simp_all)

theorem readSigned?_literal {cs : List Char} (h : (Decimal.readSigned? cs).isSome = true) :
    ∀ c ∈ cs, c ∈ literalChars := by
  unfold Decimal.readSigned? at h
  split at h <;> simp only [Option.isSome_map, Option.bind_eq_bind, Option.isSome_bind] at h
  · exact List.forall_mem_cons.mpr ⟨by decide, readDigits?_literal (by simpa using h)⟩
  · exact List.forall_mem_cons.mpr ⟨by decide, readDigits?_literal (by simpa using h)⟩
  · exact readDigits?_literal (by simpa using h)

theorem readExponent?_literal {cs : List Char} (h : (Decimal.readExponent? cs).isSome = true) :
    ∀ c ∈ cs, c ∈ literalChars := by
  cases cs with
  | nil => exact List.forall_mem_nil _
  | cons mark cs =>
    simp only [Decimal.readExponent?] at h
    split at h
    · next hmark =>
      have hmark : Cursor.isExponentMark mark = true := by simpa [Cursor.isExponentMark] using hmark
      exact List.forall_mem_cons.mpr
        ⟨mem_literalChars_of_isExponentMark hmark, readSigned?_literal h⟩
    · cases h

theorem read?_literal {cs : List Char} (h : (Decimal.read? cs).isSome = true) :
    ∀ c ∈ cs, c ∈ literalChars := by
  simp only [Decimal.read?] at h
  split at h
  · cases h
  · rw [Option.isSome_map] at h
    have hrest := readExponent?_literal h
    rw [← List.takeWhile_append_dropWhile (p := Decimal.isDigit) (l := cs)]
    refine List.forall_mem_append.mpr ⟨digits_literal List.all_takeWhile, ?_⟩
    generalize cs.dropWhile Decimal.isDigit = tail at hrest
    unfold Decimal.splitFraction at hrest
    split at hrest
    · next fraction =>
      rw [← List.takeWhile_append_dropWhile (p := Decimal.isDigit) (l := fraction)]
      exact List.forall_mem_cons.mpr ⟨by decide,
        List.forall_mem_append.mpr ⟨digits_literal List.all_takeWhile, hrest⟩⟩
    · exact hrest

section

variable {cs : List Char} (h : ∀ c ∈ cs, c ∈ literalChars)
include h

theorem literal_plain :
    ∀ c ∈ cs, plainDigit c = c ∧ Text.isMargin c = false ∧ c ≠ '_' ∧ c.toLower ≠ 'n' := by
  intro c hc
  have hplain := List.all_eq_true.mp literalChars_plain c (h c hc)
  simpa [and_assoc] using hplain

theorem trimMargins_literal : Text.trimMargins cs = cs := by
  have hplain := literal_plain h
  have hfront : cs.dropWhile Text.isMargin = cs := by
    cases cs with
    | nil => rfl
    | cons c cs => exact List.dropWhile_cons_of_neg (by simp [(hplain c List.mem_cons_self).2.1])
  have hback : cs.reverse.dropWhile Text.isMargin = cs.reverse := by
    generalize hrev : cs.reverse = rev
    cases rev with
    | nil => rfl
    | cons c rev =>
      have hc : c ∈ cs := List.mem_reverse.mp (hrev ▸ List.mem_cons_self)
      exact List.dropWhile_cons_of_neg (by simp [(hplain c hc).2.1])
  rw [Text.trimMargins, hfront, hback, List.reverse_reverse]

theorem separatorsFit_literal (before : Option Char) : separatorsFit before cs = true := by
  have hplain := literal_plain h
  clear h
  induction cs generalizing before with
  | nil => rfl
  | cons c cs ih =>
    obtain ⟨⟨-, -, hc, -⟩, hcs⟩ := List.forall_mem_cons.mp hplain
    simp [separatorsFit, hc, ih _ hcs]

theorem numberWord?_literal : numberWord? cs = none := by
  have hplain := literal_plain h
  have hn : 'n' ∉ (if cs.head?.any Cursor.isSign then cs.tail else cs).map Char.toLower := by
    rw [List.mem_map]
    rintro ⟨c, hc, hlower⟩
    have hc : c ∈ cs := by
      split at hc
      · exact List.mem_of_mem_tail hc
      · exact hc
    exact (hplain c hc).2.2.2 hlower
  have hword : ∀ word : List Char, 'n' ∈ word →
      (if cs.head?.any Cursor.isSign then cs.tail else cs).map Char.toLower ≠ word := by
    rintro word hword rfl
    exact hn hword
  simp only [numberWord?]
  rw [if_neg, if_neg (hword _ (by decide))]
  rintro (hinf | hinf)
  · exact hword _ (by decide) hinf
  · exact hword _ (by decide) hinf

theorem toNumber?_literal : toNumber? cs = Binary64.read? cs := by
  have hplain := literal_plain h
  have hmap : cs.map plainDigit = cs :=
    (List.map_congr_left fun c hc => (hplain c hc).1).trans (List.map_id cs)
  have hfilter : cs.filter (· != '_') = cs :=
    List.filter_eq_self.mpr fun c hc => by simp [(hplain c hc).2.2.1]
  simp only [toNumber?, trimMargins_literal h, hmap, separatorsFit_literal h, hfilter,
    numberWord?_literal h, if_true]
  cases Binary64.read? cs <;> rfl

end

example : toNumber? "\t-Infinity ".toList = some (.infinite true) := by
  decide +kernel

/-! ## The two uses -/

/-- What the lexer takes for a number is read as a literal, or the reading of it traps. -/
theorem toNumber?_numeric {cs : List Char} (h : Cursor.Numeric cs) :
    toNumber? cs = (Decimal.read? cs).map (·.toBinary64 false) := by
  rw [toNumber?_literal (numeric_literal h)]
  obtain ⟨hdigit, -, -⟩ := h
  unfold Binary64.read?
  split
  · next heq =>
    obtain ⟨rfl, -⟩ := List.cons.inj heq
    cases hdigit
  · next heq =>
    obtain ⟨rfl, -⟩ := List.cons.inj heq
    cases hdigit
  · rfl

theorem toNumber?_of_read {cs : List Char} {x : Binary64} (h : Binary64.read? cs = some x) :
    toNumber? cs = some x := by
  rw [toNumber?_literal, h]
  unfold Binary64.read? at h
  split at h <;> have hread := congrArg Option.isSome h <;> rw [Option.isSome_map] at hread
  · exact List.forall_mem_cons.mpr ⟨by decide, read?_literal hread⟩
  · exact List.forall_mem_cons.mpr ⟨by decide, read?_literal hread⟩
  · exact read?_literal hread

end Trapping

end Calculator
