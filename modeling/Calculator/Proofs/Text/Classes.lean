import Calculator.Numeral
import Calculator.Token.Cursor

/-!
# Runs and classes of characters

A run of a class that is followed by something else is taken whole and nothing more. Whether two
classes exclude each other is decided on their tables (`Ranges.apart`), so the characters that a
lexeme can start with are told apart by computation.
-/

namespace Calculator.Text

variable {α : Type} {p : α → Bool} {run rest : List α}

/-! ## Runs -/

theorem takeWhile_append_of_stop (hrun : run.all p = true) (hrest : rest.head?.any p = false) :
    (run ++ rest).takeWhile p = run := by
  rw [List.takeWhile_append_of_pos (List.all_eq_true.mp hrun)]
  cases rest with
  | nil => simp
  | cons a rest => simp_all

theorem dropWhile_append_of_stop (hrun : run.all p = true) (hrest : rest.head?.any p = false) :
    (run ++ rest).dropWhile p = rest := by
  rw [List.dropWhile_append_of_pos (List.all_eq_true.mp hrun)]
  cases rest with
  | nil => rfl
  | cons a rest => simp_all

theorem head?_dropWhile_any (p : α → Bool) (l : List α) : (l.dropWhile p).head?.any p = false := by
  induction l with
  | nil => rfl
  | cons a l ih =>
    rw [List.dropWhile_cons]
    split
    · exact ih
    · simp_all

theorem head?_any_of_all {q : α → Bool} (h : rest.head?.all q = true)
    (hpq : ∀ a, q a = true → p a = false) : rest.head?.any p = false := by
  cases rest with
  | nil => rfl
  | cons a rest => simpa using hpq a (by simpa using h)

theorem notMem_of_all {a : α} (hrun : run.all p = true) (ha : p a = false) : a ∉ run := by
  intro hmem
  have := List.all_eq_true.mp hrun a hmem
  rw [ha] at this
  cases this

theorem all_ne_of_notMem {c : Char} {cs : List Char} (h : c ∉ cs) : cs.all (· != c) = true := by
  rw [List.all_eq_true]
  intro d hd
  exact bne_iff_ne.mpr (ne_of_mem_of_not_mem hd h)

theorem notMem_cons {a b : α} (hb : p b = true) (ha : p a = false) (hrun : a ∉ run) :
    a ∉ b :: run := by
  rw [List.mem_cons]
  rintro (rfl | hmem)
  · rw [ha] at hb
    cases hb
  · exact hrun hmem

theorem append_cons_inj {a : α} {run' rest' : List α} (hrun : a ∉ run) (hrun' : a ∉ run')
    (h : run ++ a :: rest = run' ++ a :: rest') : run = run' ∧ rest = rest' := by
  induction run generalizing run' with
  | nil =>
    cases run' with
    | nil => exact ⟨rfl, (List.cons.inj h).2⟩
    | cons b run' => exact absurd (List.cons.inj h).1 (List.ne_of_not_mem_cons hrun')
  | cons b run ih =>
    cases run' with
    | nil => exact absurd (List.cons.inj h).1.symm (List.ne_of_not_mem_cons hrun)
    | cons c run' =>
      obtain ⟨rfl, htail⟩ := List.cons.inj h
      obtain ⟨rfl, hrest⟩ :=
        ih (List.not_mem_of_not_mem_cons hrun) (List.not_mem_of_not_mem_cons hrun') htail
      exact ⟨rfl, hrest⟩

theorem toNat_lt_of_le {c last : Char} {bound : Nat} (h : c ≤ last) (hlast : last.toNat < bound) :
    c.toNat < bound :=
  Nat.lt_of_le_of_lt h hlast

theorem forall_char_lt {q : Char → Prop} {bound : Nat} (h : ∀ n < bound, q (Char.ofNat n)) :
    ∀ c : Char, c.toNat < bound → q c := by
  intro c hc
  have := h c.toNat hc
  rwa [Char.ofNat_toNat] at this

/-! ## Classes that exclude each other -/

def Ranges.apart (r s : Ranges) : Bool :=
  r.all fun a => s.all fun b => decide (a.2 < b.1) || decide (b.2 < a.1)

theorem Ranges.contains_of_apart {r s : Ranges} {c : Char} (h : r.apart s = true)
    (hc : r.contains c = true) : s.contains c = false := by
  rw [Bool.eq_false_iff]
  intro hs
  obtain ⟨a, ha, ha₁, ha₂⟩ := Ranges.contains_iff.mp hc
  obtain ⟨b, hb, hb₁, hb₂⟩ := Ranges.contains_iff.mp hs
  have hab := List.all_eq_true.mp (List.all_eq_true.mp h a ha) b hb
  simp only [Bool.or_eq_true, decide_eq_true_eq] at hab
  omega

def digitRange : Ranges :=
  [(0x30, 0x39)]

theorem isDigit_eq (c : Char) : Decimal.isDigit c = digitRange.contains c := by
  have h : ∀ a b : Char, decide (a ≤ b) = decide (a.toNat ≤ b.toNat) := fun a b => rfl
  simp only [Decimal.isDigit, digitRange, Ranges.contains, List.any_cons, List.any_nil,
    Bool.or_false, h]
  rfl

theorem tables_apart : blanks.apart letters = true ∧ blanks.apart numerals = true ∧
    blanks.apart digitRange = true ∧ letters.apart digitRange = true := by
  decide +kernel

theorem isDigit_of_isBlank {c : Char} (h : isBlank c = true) : Decimal.isDigit c = false := by
  obtain ⟨-, -, hapart, -⟩ := tables_apart
  rw [isDigit_eq]
  exact Ranges.contains_of_apart hapart h

theorem ne_of_isBlank {c d : Char} (h : isBlank c = true) (hd : isBlank d = false) : c ≠ d := by
  rintro rfl
  rw [h] at hd
  cases hd

end Calculator.Text

namespace Calculator.Cursor

open Text

theorem isNamePart_of_isBlank {c : Char} (h : isBlank c = true) : isNamePart c = false := by
  obtain ⟨hletters, hnumerals, -, -⟩ := tables_apart
  simp only [isNamePart, isLetterOrNumeral, isLetter, Bool.or_eq_false_iff, beq_eq_false_iff_ne]
  exact ⟨⟨Ranges.contains_of_apart hletters h, Ranges.contains_of_apart hnumerals h⟩,
    ne_of_isBlank h (by decide)⟩

theorem isBlank_of_isNameStart {c : Char} (h : isNameStart c = true) : isBlank c = false := by
  rw [Bool.eq_false_iff]
  intro hb
  have := isNamePart_of_isBlank hb
  rw [isNamePart_of_isNameStart h] at this
  cases this

theorem isDigit_of_isNameStart {c : Char} (h : isNameStart c = true) :
    Decimal.isDigit c = false := by
  rcases Bool.or_eq_true_iff.mp h with h | h
  · obtain ⟨-, -, -, hapart⟩ := tables_apart
    rw [isDigit_eq]
    exact Ranges.contains_of_apart hapart h
  · rw [beq_iff_eq.mp h]
    rfl

theorem ne_quote_of_isNameStart {c : Char} (h : isNameStart c = true) : c ≠ '"' := by
  rintro rfl
  exact absurd h (by decide +kernel)

theorem symbol?_classes {c : Char} {l : Lexeme} (h : symbol? c = some l) :
    isBlank c = false ∧ Decimal.isDigit c = false ∧ c ≠ '"' ∧ isNameStart c = false := by
  unfold symbol? at h
  split at h
  case h_9 => cases h
  all_goals decide +kernel

theorem mayFollowNumber_classes {c : Char} (h : mayFollowNumber c = true) :
    Decimal.isDigit c = false ∧ c ≠ '.' ∧ isExponentMark c = false := by
  simp only [mayFollowNumber, isOperatorSymbol, Bool.or_eq_true, beq_iff_eq] at h
  rcases h with ((h | rfl) | rfl) | (((rfl | rfl) | rfl) | rfl) | rfl
  · refine ⟨isDigit_of_isBlank h, ne_of_isBlank h (by decide), ?_⟩
    simp [isExponentMark, ne_of_isBlank (d := 'e') h (by decide),
      ne_of_isBlank (d := 'E') h (by decide)]
  all_goals decide

end Calculator.Cursor

namespace Calculator.Numeral

/-! ## Digits of numerals -/

theorem digit?_symbol : ∀ d < 36, digit? (symbol d) = some d ∧
    (10 ≤ d → digit? (symbol d).toLower = some d) := by
  decide +kernel

theorem toNat_of_digit? {c : Char} {d : Nat} (h : digit? c = some d) : c.toNat < 0x7B := by
  unfold digit? at h
  split at h
  · next hc => exact Text.toNat_lt_of_le hc.2 (by decide)
  · split at h
    · next hc => exact Text.toNat_lt_of_le hc.2 (by decide)
    · split at h
      · next hc => exact Text.toNat_lt_of_le hc.2 (by decide)
      · cases h

theorem digit?_toUpper (c : Char) : digit? c.toUpper = digit? c := by
  by_cases hc : c.toNat < 0x7B
  · exact Text.forall_char_lt (q := fun c => digit? c.toUpper = digit? c) (by decide +kernel) c hc
  · have hupper : c.toUpper = c := dif_neg fun h => hc (Nat.lt_succ_of_le h.2)
    rw [hupper]

end Calculator.Numeral
