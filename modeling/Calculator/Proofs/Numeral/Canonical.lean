import Mathlib.Data.Nat.Digits.Lemmas
import Calculator.Proofs.Numeral.PlaceValue

/-!
# Canonical numerals

A numeral is canonical when no zero and no sign of it can be left out. Of all numerals of an integer
in a base, writing picks the canonical one with capitals: it drops the zeros in front of the digits
and the sign of zero, and changes nothing else (`write_of_spells`).
-/

namespace Calculator.Numeral

/-! ## Forms of a numeral -/

/-- A zero in front is all there is. -/
def Trimmed (cs : List Char) : Prop :=
  cs.head? = some '0' → cs = ['0']

instance : DecidablePred Trimmed :=
  fun _ => inferInstanceAs (Decidable (_ → _))

inductive Canonical : List Char → Prop
  | unsigned {cs : List Char} (sign : cs.head? ≠ some '-') (trimmed : Trimmed cs) : Canonical cs
  | minus {cs : List Char} (nonzero : cs ≠ ['0']) (trimmed : Trimmed cs) : Canonical ('-' :: cs)

def significant (cs : List Char) : List Char :=
  (cs.dropWhile (· == '0')).map Char.toUpper

/-- The numeral in capitals without zeros in front. Zeros alone, with a sign or without, are one
zero. -/
def normal : List Char → List Char
  | '-' :: body => if significant body = [] then ['0'] else '-' :: significant body
  | body => if significant body = [] then ['0'] else significant body

theorem significant_of_head? {cs : List Char} (h : cs.head? ≠ some '0') :
    significant cs = cs.map Char.toUpper := by
  cases cs with
  | nil => rfl
  | cons c cs =>
    have hc : c ≠ '0' := by simpa using h
    simp [significant, hc]

theorem significant_of_trimmed {cs : List Char} (hne : cs ≠ []) (h : Trimmed cs) :
    (if significant cs = [] then ['0'] else significant cs) = cs.map Char.toUpper := by
  by_cases hzero : cs.head? = some '0'
  · rw [h hzero]
    rfl
  · simp [significant_of_head? hzero, hne]

theorem normal_unsigned {cs : List Char} (h : cs.head? ≠ some '-') :
    normal cs = if significant cs = [] then ['0'] else significant cs := by
  unfold normal
  split
  · simp at h
  · rfl

section

variable {base : Base} {cs : List Char} {n : Nat}

/-! ## The characters of a numeral -/

def smallAlphabet : List Char :=
  "0123456789abcdefghijklmnopqrstuvwxyz".toList

/-- One sign at most, and behind it one digit of the base or more, with letters of either case. -/
def Admitted (base : Base) (cs : List Char) : Prop :=
  ∃ body, (cs = body ∨ cs = '-' :: body) ∧ body ≠ [] ∧
    ∀ c ∈ body, ∃ d < base.value, alphabet[d]? = some c ∨ smallAlphabet[d]? = some c

theorem isDigit_iff {c : Char} {d : Nat} : IsDigit base c d ↔
    d < base.value ∧ (alphabet[d]? = some c ∨ smallAlphabet[d]? = some c) := by
  rw [IsDigit, and_comm, and_congr_right_iff]
  intro hd
  constructor
  · intro h
    have hdigit := digit?_eq_some.mpr h
    have hall : ∀ c : Char, c.toNat < 0x7B → (digit? c).all
        (fun d => alphabet[d]? == some c || smallAlphabet[d]? == some c) = true :=
      Text.forall_char_lt (by decide +kernel)
    have hc := hall c (toNat_of_digit? hdigit)
    rw [hdigit] at hc
    simpa using hc
  · intro h
    have hall : ∀ d < 36, alphabet[d]?.all (alphabet[d]? == some ·.toUpper) = true ∧
        smallAlphabet[d]?.all (alphabet[d]? == some ·.toUpper) = true := by
      decide +kernel
    obtain ⟨hcapital, hsmall⟩ := hall d (Nat.lt_of_lt_of_le hd base.le_36)
    rcases h with h | h
    · rw [h] at hcapital
      simpa [h] using hcapital
    · rw [h] at hsmall
      simpa using hsmall

theorem exists_spellsNat_iff : (∃ n, SpellsNat base cs n) ↔
    cs ≠ [] ∧ ∀ c ∈ cs, ∃ d, IsDigit base c d := by
  constructor
  · rintro ⟨_, hne, hdigits⟩
    refine ⟨hne, ?_⟩
    clear hne
    induction hdigits with
    | nil => exact List.forall_mem_nil _
    | cons hd _ ih => exact List.forall_mem_cons.mpr ⟨⟨_, hd⟩, ih⟩
  · rintro ⟨hne, hall⟩
    obtain ⟨ds, hds⟩ : ∃ ds, List.Forall₂ (IsDigit base) cs ds := by
      clear hne
      induction cs with
      | nil => exact ⟨[], .nil⟩
      | cons c cs ih =>
        obtain ⟨⟨d, hd⟩, hrest⟩ := List.forall_mem_cons.mp hall
        obtain ⟨ds, hds⟩ := ih hrest
        exact ⟨d :: ds, .cons hd hds⟩
    exact ⟨_, .intro hne hds⟩

theorem exists_spells_iff : (∃ m, Spells base cs m) ↔ Admitted base cs := by
  simp only [Admitted, ← isDigit_iff, ← exists_spellsNat_iff]
  constructor
  · rintro ⟨_, hdigits | hdigits⟩
    · exact ⟨_, .inl rfl, _, hdigits⟩
    · exact ⟨_, .inr rfl, _, hdigits⟩
  · rintro ⟨body, rfl | rfl, n, hdigits⟩
    · exact ⟨_, .unsigned hdigits⟩
    · exact ⟨_, .minus hdigits⟩

/-! ## The digits that are written -/

theorem alphabet_symbol : ∀ d < 36, alphabet[d]? = some (symbol d) := by decide

theorem IsDigit.toUpper {c : Char} {d : Nat} (h : IsDigit base c d) : c.toUpper = symbol d := by
  have hsymbol := alphabet_symbol d (Nat.lt_of_lt_of_le h.2 base.le_36)
  exact Option.some.inj (h.1.symm.trans hsymbol)

theorem IsDigit.eq_zero {c : Char} (h : IsDigit base c 0) : c = '0' := by
  have hzero : digit? c = some 0 := digit?_eq_some.mpr h.1
  have hall : ∀ c : Char, c.toNat < 0x7B → digit? c = some 0 → c = '0' :=
    Text.forall_char_lt (by decide +kernel)
  exact hall c (toNat_of_digit? hzero) hzero

theorem digits_zero (base : Base) : digits base 0 = ['0'] := by
  have hpos : 0 < base.value := Nat.lt_of_lt_of_le (by decide) base.two_le
  rw [digits, if_pos hpos]
  rfl

theorem quotient_ne_zero (h : ¬n < base.value) : n / base.value ≠ 0 := by
  have hbase := base.two_le
  exact Nat.div_ne_zero_iff.mpr ⟨by omega, Nat.le_of_not_lt h⟩

theorem digits_eq_map (base : Base) (h : n ≠ 0) :
    digits base n = (Nat.digits base.value n).reverse.map symbol := by
  have hbase : 1 < base.value := base.two_le
  induction n using digits.induct base with
  | case1 n hlt =>
    rw [digits, if_pos hlt, Nat.digits_of_lt _ _ h hlt]
    rfl
  | case2 n hge ih =>
    rw [digits, if_neg hge, ih (quotient_ne_zero hge), Nat.digits_def' hbase (Nat.pos_of_ne_zero h)]
    simp

theorem map_toUpper_of_digits {ds : List Nat} (h : List.Forall₂ (IsDigit base) cs ds) :
    cs.map Char.toUpper = ds.map symbol ∧ ∀ d ∈ ds, d < base.value := by
  induction h with
  | nil => exact ⟨rfl, List.forall_mem_nil _⟩
  | cons hd _ ih =>
    rw [List.map_cons, List.map_cons, ih.1, hd.toUpper]
    exact ⟨rfl, List.forall_mem_cons.mpr ⟨hd.2, ih.2⟩⟩

theorem digits_of_head? (h : SpellsNat base cs n) (hhead : cs.head? ≠ some '0') :
    digits base n = cs.map Char.toUpper ∧ n ≠ 0 := by
  obtain @⟨ds, hne, hdigits⟩ := h
  obtain ⟨hmap, hlt⟩ := map_toUpper_of_digits hdigits
  cases hdigits with
  | nil => exact absurd rfl hne
  | @cons c d cs ds hd hds =>
    have hfirst : d ≠ 0 := by
      rintro rfl
      exact hhead (congrArg some hd.eq_zero)
    have hsame : Nat.digits base.value (Nat.ofDigits base.value (d :: ds).reverse) =
        (d :: ds).reverse := by
      refine Nat.digits_ofDigits base.value base.two_le _ ?_ ?_
      · intro e he
        exact hlt e (List.mem_reverse.mp he)
      · intro _
        simpa using hfirst
    have hn : Nat.ofDigits base.value (d :: ds).reverse ≠ 0 := by
      intro hzero
      rw [hzero, Nat.digits_zero] at hsame
      simp at hsame
    refine ⟨?_, hn⟩
    rw [digits_eq_map base hn, hsame, List.reverse_reverse, hmap]

theorem SpellsNat.ne_nil (h : SpellsNat base cs n) : cs ≠ [] := by
  obtain ⟨hne, -⟩ := h
  exact hne

theorem SpellsNat.unique {m : Nat} (h : SpellsNat base cs n) (h' : SpellsNat base cs m) :
    n = m := by
  rw [← readNat?_eq_some] at h h'
  exact Option.some.inj (h.symm.trans h')

theorem spellsNat_zero (base : Base) : SpellsNat base ['0'] 0 := by
  have hzero : 0 < base.value := Nat.lt_of_lt_of_le (by decide) base.two_le
  exact spellsNat_symbol hzero

theorem spellsNat_dropWhile (h : SpellsNat base cs n) :
    (cs.dropWhile (· == '0') = [] ∧ n = 0) ∨ SpellsNat base (cs.dropWhile (· == '0')) n := by
  induction cs with
  | nil => exact absurd rfl h.ne_nil
  | cons c cs ih =>
    by_cases hc : c = '0'
    · subst hc
      rw [List.dropWhile_cons_of_pos (by rfl)]
      by_cases hcs : cs = []
      · subst hcs
        exact .inl ⟨rfl, h.unique (spellsNat_zero base)⟩
      · have hread := readNat?_zeros base 1 hcs
        rw [List.replicate_one, List.singleton_append, readNat?_eq_some.mpr h] at hread
        exact ih (readNat?_eq_some.mp hread.symm)
    · rw [List.dropWhile_cons_of_neg (by simpa using hc)]
      exact .inr h

theorem digits_of_spellsNat (h : SpellsNat base cs n) :
    digits base n = (if significant cs = [] then ['0'] else significant cs) ∧
      (significant cs = [] ↔ n = 0) := by
  rcases spellsNat_dropWhile h with ⟨hnil, rfl⟩ | hrest
  · simp [significant, hnil, digits_zero]
  · have hhead : (cs.dropWhile (· == '0')).head? ≠ some '0' := by
      intro hzero
      have := Text.head?_dropWhile_any (· == '0') cs
      simp [hzero] at this
    obtain ⟨hdigits, hn⟩ := digits_of_head? hrest hhead
    simp [significant, hrest.ne_nil, hdigits, hn]

theorem trimmed_digits (base : Base) (n : Nat) : Trimmed (digits base n) := by
  induction n using digits.induct base with
  | case1 n hlt =>
    rw [digits, if_pos hlt]
    intro hhead
    simpa using hhead
  | case2 n hge ih =>
    rw [digits, if_neg hge]
    intro hhead
    have hspells := spellsNat_digits base (n / base.value)
    rw [List.head?_append_of_ne_nil _ hspells.ne_nil] at hhead
    rw [ih hhead] at hspells
    exact absurd (hspells.unique (spellsNat_zero base)) (quotient_ne_zero hge)

theorem write_of_spells {m : Int} (h : Spells base cs m) : write base m = normal cs := by
  cases h with
  | @unsigned cs n hdigits =>
    have hsign : cs.head? ≠ some '-' := by
      intro hminus
      exact hdigits.notMem minus_notMem_alphabet (List.mem_of_head? hminus)
    rw [normal_unsigned hsign, ← (digits_of_spellsNat hdigits).1, write,
      if_neg (Int.not_lt.mpr (Int.natCast_nonneg n)), Int.natAbs_natCast]
  | @minus cs n hdigits =>
    obtain ⟨hwritten, hzero⟩ := digits_of_spellsNat hdigits
    rw [write, normal, Int.natAbs_neg, Int.natAbs_natCast, hwritten]
    by_cases hn : n = 0
    · simp [hn, hzero.mpr hn]
    · have hneg : -(n : Int) < 0 := by omega
      rw [if_pos hneg, if_neg (mt hzero.mp hn), if_neg (mt hzero.mp hn)]

theorem canonical_write (base : Base) (m : Int) : Canonical (write base m) := by
  have hspells := spellsNat_digits base m.natAbs
  have htrimmed := trimmed_digits base m.natAbs
  unfold write
  split
  · next hm =>
    refine .minus ?_ htrimmed
    intro hzero
    rw [hzero] at hspells
    have := hspells.unique (spellsNat_zero base)
    omega
  · refine .unsigned ?_ htrimmed
    intro hminus
    exact hspells.notMem minus_notMem_alphabet (List.mem_of_head? hminus)

/-- The only canonical numeral of an integer, but for the case of its letters. -/
theorem write_of_canonical {m : Int} (h : Spells base cs m) (hcanonical : Canonical cs) :
    write base m = cs.map Char.toUpper := by
  rw [write_of_spells h]
  cases hcanonical with
  | unsigned hsign htrimmed =>
    have hne : cs ≠ [] := by
      rintro rfl
      cases h with
      | unsigned hdigits => exact hdigits.ne_nil rfl
    rw [normal_unsigned hsign, significant_of_trimmed hne htrimmed]
  | @minus cs hnonzero htrimmed =>
    have hhead : cs.head? ≠ some '0' := fun hzero => hnonzero (htrimmed hzero)
    have hne : cs ≠ [] := by
      cases h with
      | unsigned hdigits => exact absurd List.mem_cons_self (hdigits.notMem minus_notMem_alphabet)
      | minus hdigits => exact hdigits.ne_nil
    simp [normal, significant_of_head? hhead, hne]

theorem Spells.unique {m k : Int} (h : Spells base cs m) (h' : Spells base cs k) : m = k := by
  rw [← read?_eq_some] at h h'
  exact Option.some.inj (h.symm.trans h')

theorem write_inj {m k : Int} : write base m = write base k ↔ m = k := by
  constructor
  · intro h
    have hm := spells_write base m
    rw [h] at hm
    exact hm.unique (spells_write base k)
  · rintro rfl
    rfl

end

/-! ## Decimal numerals -/

theorem toDigits_eq (n : Nat) : Nat.toDigits 10 n = digits .ten n := by
  have hsymbol : ∀ d < 10, Nat.digitChar d = symbol d := by decide
  have hten : Base.ten.value = 10 := rfl
  induction n using Nat.strongRecOn with
  | ind n ih =>
    rw [digits, hten]
    split
    · next hlt => rw [Nat.toDigits_of_lt_base hlt, hsymbol n hlt]
    · next hge =>
      rw [Nat.toDigits_of_base_le (by decide) (Nat.le_of_not_lt hge), ih (n / 10) (by omega),
        hsymbol _ (Nat.mod_lt n (by decide))]

theorem toList_toString (m : Int) : (toString m).toList = write .ten m := by
  rw [Int.toString_eq_repr, Int.repr_eq_if, write]
  by_cases hm : m < 0
  · have habs : (-m).toNat = m.natAbs := by omega
    rw [if_neg (Int.not_le.mpr hm), if_pos hm, String.toList_append, Nat.toList_repr, toDigits_eq,
      habs]
    rfl
  · have habs : m.toNat = m.natAbs := by omega
    rw [if_pos (Int.not_lt.mp hm), if_neg hm, Nat.toList_repr, toDigits_eq, habs]

end Calculator.Numeral
