import Mathlib.Tactic.Ring
import Calculator.Decimal.Notation
import Calculator.Proofs.Token.Spelling

/-!
# Decimal literals

The digits of a number spell it (`digits_ten`). A `Literal` is read as the decimal it stands for,
and the lexer takes all of it for one number.
-/

namespace Calculator

namespace Decimal

/-! ## Digits -/

theorem ofDigits_append (cs ds : List Char) :
    ofDigits (cs ++ ds) = ofDigits cs * 10 ^ ds.length + ofDigits ds := by
  simp only [ofDigits, List.foldl_append]
  generalize cs.foldl (fun n c => n * 10 + (c.toNat - 0x30)) 0 = n
  induction ds generalizing n with
  | nil => simp
  | cons d ds ih =>
    rw [List.foldl_cons, List.foldl_cons, ih, ih (0 * 10 + _), List.length_cons]
    ring

theorem ofDigits_zeros (n : Nat) : ofDigits (zeros n) = 0 := by
  induction n with
  | zero => rfl
  | succ n ih =>
    have hcons : zeros (n + 1) = ['0'] ++ zeros n := rfl
    rw [hcons, ofDigits_append, ih]
    simp [ofDigits]

theorem isDigit_zeros (n : Nat) : (zeros n).all isDigit = true := by
  rw [zeros, List.all_replicate]
  split <;> rfl

theorem all_isDigit_append {cs ds : List Char} (hcs : cs.all isDigit = true)
    (hds : ds.all isDigit = true) : (cs ++ ds).all isDigit = true := by
  rw [List.all_append, hcs, hds]
  rfl

theorem all_isDigit_split {cs : List Char} (h : cs.all isDigit = true) (n : Nat) :
    (cs.take n).all isDigit = true ∧ (cs.drop n).all isDigit = true := by
  rwa [← Bool.and_eq_true, ← List.all_append, List.take_append_drop]

theorem symbol_ten : ∀ d < 10, isDigit (Numeral.symbol d) = true ∧
    (Numeral.symbol d).toNat - 0x30 = d := by
  decide

theorem digits_ten (n : Nat) :
    (Numeral.digits .ten n).all isDigit = true ∧ ofDigits (Numeral.digits .ten n) = n := by
  induction n using Nat.strongRecOn with
  | ind n ih =>
    rw [Numeral.digits]
    have hten : Base.ten.value = 10 := rfl
    rw [hten]
    split
    · next hlt =>
      obtain ⟨hdigit, hvalue⟩ := symbol_ten n hlt
      simp [hdigit, ofDigits, hvalue]
    · next hge =>
      obtain ⟨hdigits, hvalue⟩ := ih (n / 10) (by omega)
      obtain ⟨hdigit, hlast⟩ := symbol_ten (n % 10) (Nat.mod_lt _ (by decide))
      refine ⟨by simp [hdigits, hdigit], ?_⟩
      rw [ofDigits_append, hvalue]
      simp only [ofDigits, List.foldl_cons, List.foldl_nil, hlast, List.length_singleton]
      omega

theorem digits_ne_nil (base : Base) (n : Nat) : Numeral.digits base n ≠ [] := by
  rw [Numeral.digits]
  split <;> simp

theorem readDigits?_of_all {cs : List Char} (hne : cs ≠ []) (h : cs.all isDigit = true) :
    readDigits? cs = some (ofDigits cs) := by
  simp [readDigits?, hne, h]

/-! ## Literals -/

inductive Literal : List Char → Decimal → Prop
  | plain {whole mark : List Char} {e : Int} : whole ≠ [] → whole.all isDigit = true →
      Cursor.Exponent mark → readExponent? mark = some e →
      Literal (whole ++ mark) ⟨ofDigits whole, e⟩
  | pointed {whole fraction mark : List Char} {e : Int} : whole ≠ [] → whole.all isDigit = true →
      fraction.all isDigit = true → Cursor.Exponent mark → readExponent? mark = some e →
      Literal (whole ++ '.' :: (fraction ++ mark))
        ⟨ofDigits (whole ++ fraction), e - fraction.length⟩

theorem head?_exponent {mark : List Char} (h : Cursor.Exponent mark) :
    mark.head?.any Cursor.isDigitOrPoint = false := by
  cases h with
  | none => rfl
  | unsigned h | signed h => simpa using Cursor.isDigitOrPoint_of_isExponentMark h

theorem splitFraction_exponent {mark : List Char} (h : Cursor.Exponent mark) :
    splitFraction mark = ([], mark) := by
  have hhead := head?_exponent h
  unfold splitFraction
  split
  · simp [Cursor.isDigitOrPoint] at hhead
  · rfl

theorem head?_any_isDigit {cs : List Char} (h : cs.head?.any Cursor.isDigitOrPoint = false) :
    cs.head?.any isDigit = false := by
  cases cs with
  | nil => rfl
  | cons c cs =>
    have hc : (isDigit c || c == '.') = false := h
    exact (Bool.or_eq_false_iff.mp hc).1

theorem Literal.read? {cs : List Char} {d : Decimal} (h : Literal cs d) :
    Decimal.read? cs = some d := by
  cases h with
  | plain hne hwhole hmark hread =>
    have hstop := head?_any_isDigit (head?_exponent hmark)
    simp [Decimal.read?, Text.takeWhile_append_of_stop hwhole hstop,
      Text.dropWhile_append_of_stop hwhole hstop, splitFraction_exponent hmark, hne, hread]
  | @pointed whole fraction mark _ hne hwhole hfraction hmark hread =>
    have hpoint : ('.' :: (fraction ++ mark)).head?.any isDigit = false := rfl
    have hstop := head?_any_isDigit (head?_exponent hmark)
    simp [Decimal.read?, Text.takeWhile_append_of_stop hwhole hpoint,
      Text.dropWhile_append_of_stop hwhole hpoint, splitFraction,
      Text.takeWhile_append_of_stop hfraction hstop,
      Text.dropWhile_append_of_stop hfraction hstop, hne, hread]

theorem all_isDigitOrPoint {cs : List Char} (h : cs.all isDigit = true) :
    cs.all Cursor.isDigitOrPoint = true := by
  rw [List.all_eq_true] at h ⊢
  intro c hc
  simp [Cursor.isDigitOrPoint, h c hc]

theorem Literal.numeric {cs : List Char} {d : Decimal} (h : Literal cs d) : Cursor.Numeric cs := by
  cases h with
  | @plain whole mark _ hne hwhole hmark _ =>
    cases whole with
    | nil => exact absurd rfl hne
    | cons c whole =>
      rw [List.all_cons, Bool.and_eq_true] at hwhole
      exact .intro hwhole.1 (all_isDigitOrPoint hwhole.2) hmark
  | @pointed whole fraction mark _ hne hwhole hfraction hmark _ =>
    cases whole with
    | nil => exact absurd rfl hne
    | cons c whole =>
      rw [List.all_cons, Bool.and_eq_true] at hwhole
      have hall : (whole ++ '.' :: fraction).all Cursor.isDigitOrPoint = true := by
        simp [all_isDigitOrPoint hwhole.2, all_isDigitOrPoint hfraction, Cursor.isDigitOrPoint]
      have := Cursor.Numeric.intro hwhole.1 hall hmark
      simpa using this

end Decimal

end Calculator
