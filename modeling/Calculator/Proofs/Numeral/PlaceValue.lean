import Mathlib.Data.List.Forall2
import Mathlib.Data.Nat.Digits.Defs
import Calculator.Numeral
import Calculator.Proofs.Text.Classes

/-!
# Place value

A numeral spells the sum of its digits, each times a power of the base (`Spells`). Reading finds
this number for all that is a numeral and for nothing else, whatever the length (`read?_eq_some`).
What is written spells the number that was to be written (`spells_write`).
-/

namespace Calculator.Numeral

/-! ## Digits -/

def alphabet : List Char :=
  "0123456789ABCDEFGHIJKLMNOPQRSTUVWXYZ".toList

theorem point_notMem_alphabet : '.'.toUpper ∉ alphabet := by decide

theorem minus_notMem_alphabet : '-'.toUpper ∉ alphabet := by decide

theorem digit?_eq_some {c : Char} {d : Nat} :
    digit? c = some d ↔ alphabet[d]? = some c.toUpper := by
  constructor
  · intro h
    have hall : ∀ c : Char, c.toNat < 0x7B →
        (digit? c).all (fun d => alphabet[d]? == some c.toUpper) = true :=
      Text.forall_char_lt (by decide +kernel)
    have hc := hall c (toNat_of_digit? h)
    rw [h] at hc
    simpa using hc
  · intro h
    have hall : ∀ d < 36, alphabet[d]?.all (fun c => digit? c == some d) = true := by
      decide +kernel
    obtain ⟨hd, -⟩ := List.getElem?_eq_some_iff.mp h
    have hc := hall d hd
    rw [h] at hc
    rw [← digit?_toUpper]
    simpa using hc

section

variable {base : Base}

/-- A character is a digit of the base, a letter of either case. -/
def IsDigit (base : Base) (c : Char) (d : Nat) : Prop :=
  alphabet[d]? = some c.toUpper ∧ d < base.value

theorem digitOf?_eq_some {c : Char} {d : Nat} : digitOf? base c = some d ↔ IsDigit base c d := by
  rw [digitOf?, Option.filter_eq_some_iff, decide_eq_true_eq, digit?_eq_some, IsDigit]

theorem isDigit_symbol {d : Nat} (h : d < base.value) : IsDigit base (symbol d) d :=
  ⟨digit?_eq_some.mp (digit?_symbol d (Nat.lt_of_lt_of_le h base.le_36)).1, h⟩

/-! ## What a numeral spells -/

/-- Digits of a base spell a natural number, the most significant of them first. -/
inductive SpellsNat (base : Base) : List Char → Nat → Prop
  | intro {cs : List Char} {ds : List Nat} (nonempty : cs ≠ [])
      (digits : List.Forall₂ (IsDigit base) cs ds) :
      SpellsNat base cs (Nat.ofDigits base.value ds.reverse)

inductive Spells (base : Base) : List Char → Int → Prop
  | unsigned {cs : List Char} {n : Nat} (digits : SpellsNat base cs n) : Spells base cs n
  | minus {cs : List Char} {n : Nat} (digits : SpellsNat base cs n) : Spells base ('-' :: cs) (-n)

theorem SpellsNat.notMem {cs : List Char} {n : Nat} {c : Char} (h : SpellsNat base cs n)
    (hc : c.toUpper ∉ alphabet) : c ∉ cs := by
  obtain ⟨-, hdigits⟩ := h
  induction hdigits with
  | nil => exact List.not_mem_nil
  | cons hd _ ih =>
    rw [List.mem_cons, not_or]
    refine ⟨?_, ih⟩
    rintro rfl
    exact hc (List.mem_of_getElem? hd.1)

theorem Spells.point_notMem {cs : List Char} {n : Int} (h : Spells base cs n) : '.' ∉ cs := by
  cases h with
  | unsigned hdigits => exact hdigits.notMem point_notMem_alphabet
  | minus hdigits =>
    rw [List.mem_cons, not_or]
    exact ⟨by decide, hdigits.notMem point_notMem_alphabet⟩

/-! ## Reading -/

theorem extend?_eq_some {cs : List Char} {n m : Nat} :
    extend? base n cs = some m ↔ ∃ ds : List Nat, List.Forall₂ (IsDigit base) cs ds ∧
      Nat.ofDigits base.value (n :: ds).reverse = m := by
  induction cs generalizing n with
  | nil => simp [extend?]
  | cons c cs ih =>
    have hstep (d : Nat) (ds : List Nat) :
        Nat.ofDigits base.value ((n * base.value + d) :: ds).reverse =
          Nat.ofDigits base.value (n :: d :: ds).reverse := by
      simp only [Nat.ofDigits_reverse_cons, List.length_cons, Nat.pow_succ]
      ring
    simp only [extend?, Option.bind_eq_some_iff, digitOf?_eq_some, ih, hstep,
      List.forall₂_cons_left_iff]
    constructor
    · rintro ⟨d, hd, ds, hds, h⟩
      exact ⟨d :: ds, ⟨d, ds, hd, hds, rfl⟩, h⟩
    · rintro ⟨_, ⟨d, ds, hd, hds, rfl⟩, h⟩
      exact ⟨d, hd, ds, hds, h⟩

theorem readNat?_eq_some {cs : List Char} {n : Nat} :
    readNat? base cs = some n ↔ SpellsNat base cs n := by
  rw [readNat?]
  cases cs with
  | nil =>
    refine ⟨nofun, ?_⟩
    rintro ⟨hne, -⟩
    exact absurd rfl hne
  | cons c cs =>
    rw [List.isEmpty_cons, if_neg (by decide), extend?_eq_some]
    constructor
    · rintro ⟨ds, hds, rfl⟩
      rw [Nat.ofDigits_reverse_zero_cons]
      exact .intro (List.cons_ne_nil c cs) hds
    · rintro ⟨-, hds⟩
      exact ⟨_, hds, Nat.ofDigits_reverse_zero_cons _⟩

theorem read?_minus (base : Base) (body : List Char) :
    read? base ('-' :: body) = (readNat? base body).map fun n : Nat => -(n : Int) := by
  rw [read?]
  cases readNat? base body <;> rfl

theorem read?_unsigned (base : Base) {cs : List Char} (h : ∀ body, cs ≠ '-' :: body) :
    read? base cs = (readNat? base cs).map fun n : Nat => (n : Int) := by
  rw [read?]
  · cases readNat? base cs <;> rfl
  · exact h

theorem read?_eq_some {cs : List Char} {n : Int} : read? base cs = some n ↔ Spells base cs n := by
  constructor
  · intro h
    by_cases hminus : ∃ body, cs = '-' :: body
    · obtain ⟨body, rfl⟩ := hminus
      rw [read?_minus, Option.map_eq_some_iff] at h
      obtain ⟨k, hk, rfl⟩ := h
      exact .minus (readNat?_eq_some.mp hk)
    · rw [read?_unsigned base (not_exists.mp hminus), Option.map_eq_some_iff] at h
      obtain ⟨k, hk, rfl⟩ := h
      exact .unsigned (readNat?_eq_some.mp hk)
  · intro h
    cases h with
    | unsigned hdigits =>
      have hminus : ∀ body, cs ≠ '-' :: body := by
        rintro body rfl
        exact hdigits.notMem minus_notMem_alphabet List.mem_cons_self
      rw [read?_unsigned base hminus, readNat?_eq_some.mpr hdigits]
      rfl
    | minus hdigits =>
      rw [read?_minus, readNat?_eq_some.mpr hdigits]
      rfl

/-! ## Numerals that are read alike -/

theorem readNat?_zeros (base : Base) (zeros : Nat) {cs : List Char} (h : cs ≠ []) :
    readNat? base (List.replicate zeros '0' ++ cs) = readNat? base cs := by
  have hzero : digitOf? base '0' = some 0 :=
    digitOf?_eq_some.mpr ⟨by decide, Nat.lt_of_lt_of_le (by decide) base.two_le⟩
  induction zeros with
  | zero => rfl
  | succ zeros ih =>
    rw [← ih, List.replicate_succ, List.cons_append]
    simp [readNat?, extend?, hzero, h]

theorem extend?_congr {cs ds : List Char} (h : cs.map digit? = ds.map digit?) (n : Nat) :
    extend? base n cs = extend? base n ds := by
  induction cs generalizing n ds with
  | nil => rw [List.map_eq_nil_iff.mp h.symm]
  | cons c cs ih =>
    obtain ⟨d, ds, rfl, hd, hds⟩ := List.map_eq_cons_iff.mp h.symm
    simp only [extend?, digitOf?, hd]
    exact congrArg _ (funext fun k => ih hds.symm _)

theorem map_digit?_of_toUpper {cs ds : List Char}
    (h : cs.map Char.toUpper = ds.map Char.toUpper) : cs.map digit? = ds.map digit? := by
  have hupper (cs : List Char) : (cs.map Char.toUpper).map digit? = cs.map digit? := by
    rw [List.map_map]
    exact List.map_congr_left fun c _ => digit?_toUpper c
  rw [← hupper, h, hupper]

theorem readNat?_congr (base : Base) {cs ds : List Char} (h : cs.map digit? = ds.map digit?) :
    readNat? base cs = readNat? base ds := by
  have hempty : cs.isEmpty = ds.isEmpty := by
    rw [← List.isEmpty_map (f := digit?), h, List.isEmpty_map]
  rw [readNat?, readNat?, extend?_congr h, hempty]

/-! ## Writing -/

theorem spellsNat_symbol {d : Nat} (hd : d < base.value) : SpellsNat base [symbol d] d := by
  have hdigits : List.Forall₂ (IsDigit base) [symbol d] [d] := .cons (isDigit_symbol hd) .nil
  exact .intro (List.cons_ne_nil _ _) hdigits

theorem SpellsNat.snoc {cs : List Char} {n d : Nat} (h : SpellsNat base cs n)
    (hd : d < base.value) : SpellsNat base (cs ++ [symbol d]) (n * base.value + d) := by
  cases h with
  | @intro ds _ hdigits =>
    have hvalue : Nat.ofDigits base.value ds.reverse * base.value + d =
        Nat.ofDigits base.value (ds ++ [d]).reverse := by
      rw [List.reverse_append, List.reverse_singleton, List.singleton_append, Nat.ofDigits_cons,
        Nat.add_comm, Nat.mul_comm]
    rw [hvalue]
    exact .intro (by simp) (List.rel_append hdigits (.cons (isDigit_symbol hd) .nil))

theorem spellsNat_digits (base : Base) (n : Nat) : SpellsNat base (digits base n) n := by
  have hpos : 0 < base.value := Nat.lt_of_lt_of_le (by decide) base.two_le
  induction n using digits.induct base with
  | case1 n hlt =>
    rw [digits, if_pos hlt]
    exact spellsNat_symbol hlt
  | case2 n hge ih =>
    rw [digits, if_neg hge]
    have h := ih.snoc (Nat.mod_lt n hpos)
    rwa [Nat.mul_comm, Nat.div_add_mod] at h

theorem spells_write (base : Base) (n : Int) : Spells base (write base n) n := by
  unfold write
  split
  · next hn =>
    have h := Spells.minus (spellsNat_digits base n.natAbs)
    rwa [Int.ofNat_natAbs_of_nonpos (Int.le_of_lt hn), Int.neg_neg] at h
  · next hn =>
    have h := Spells.unsigned (spellsNat_digits base n.natAbs)
    rwa [Int.natAbs_of_nonneg (Int.not_lt.mp hn)] at h

end

end Calculator.Numeral
