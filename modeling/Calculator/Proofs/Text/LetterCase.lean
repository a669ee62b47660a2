import Calculator.Proofs.Text.Lowercase

/-!
# ASCII letters of either case

Whether an ASCII letter is a capital makes no difference to the classes of characters, nor to the
lower case of a name (`lower_map_toLower`): both letters have case, so also a sigma among them is
final or not alike. The lower case of a name in ASCII changes nothing but its capitals. Of all other
characters only the Kelvin sign has an ASCII letter as its lower case and nothing else with it, so a
text in ASCII without that letter is the lower case of nothing but itself in some capitals
(`lower_eq_iff`).
-/

namespace Calculator.Text

/-! ## Capitals -/

theorem toLower_of_not_capital {c : Char} (h : ¬(0x41 ≤ c.toNat ∧ c.toNat < 0x5B)) :
    c.toLower = c :=
  dif_neg fun hcapital => h ⟨hcapital.1, Nat.lt_succ_of_le hcapital.2⟩

theorem toLower_of_le {c : Char} (h : 0x80 ≤ c.toNat) : c.toLower = c :=
  toLower_of_not_capital fun hcapital => by omega

theorem forall_capital {q : Char → Prop} (h : ∀ n < 0x5B, 0x41 ≤ n → q (Char.ofNat n)) {c : Char}
    (hc : 0x41 ≤ c.toNat ∧ c.toNat < 0x5B) : q c := by
  have := h c.toNat hc.2 hc.1
  rwa [Char.ofNat_toNat] at this

theorem toNat_toLower {c : Char} (hc : 0x41 ≤ c.toNat ∧ c.toNat < 0x5B) :
    c.toLower.toNat = c.toNat + 32 :=
  forall_capital (q := fun c => c.toLower.toNat = c.toNat + 32) (by decide +kernel) hc

theorem toLower_eq_iff {c d : Char} (hd : 0x80 ≤ d.toNat) : c.toLower = d ↔ c = d := by
  by_cases hc : 0x41 ≤ c.toNat ∧ c.toNat < 0x5B
  · -- A capital and its small letter are both ASCII.
    have hsmall := toNat_toLower hc
    constructor <;> rintro rfl <;> omega
  · rw [toLower_of_not_capital hc]

/-- All that is asked about a character when a source is read and its names are lowered. -/
structure Traits where
  blank : Bool
  quote : Bool
  digit : Bool
  point : Bool
  plus : Bool
  minus : Bool
  mark : Bool
  start : Bool
  part : Bool
  follower : Bool
  ignorable : Bool
  cased : Bool
  lowered : Char
  symbol : Option Lexeme
deriving DecidableEq

def traits (c : Char) : Traits where
  blank := isBlank c
  quote := c == '"'
  digit := Decimal.isDigit c
  point := c == '.'
  plus := c == '+'
  minus := c == '-'
  mark := Cursor.isExponentMark c
  start := Cursor.isNameStart c
  part := Cursor.isNamePart c
  follower := Cursor.mayFollowNumber c
  ignorable := caseIgnorable.contains c
  cased := cased.contains c
  lowered := lowerChar c
  symbol := Cursor.symbol? c

theorem traits_toLower (c : Char) : traits c.toLower = traits c := by
  by_cases hc : 0x41 ≤ c.toNat ∧ c.toNat < 0x5B
  · -- All traits are decided in one computation over the capitals.
    exact forall_capital (q := fun c => traits c.toLower = traits c) (by decide +kernel) hc
  · rw [toLower_of_not_capital hc]

theorem isBlank_toLower (c : Char) : isBlank c.toLower = isBlank c :=
  congrArg Traits.blank (traits_toLower c)

theorem beq_quote_toLower (c : Char) : (c.toLower == '"') = (c == '"') :=
  congrArg Traits.quote (traits_toLower c)

/-! ## Names in other capitals -/

theorem meetsCased_map_toLower (cs : List Char) :
    meetsCased (cs.map Char.toLower) = meetsCased cs := by
  have hignorable : caseIgnorable.contains ∘ Char.toLower = caseIgnorable.contains :=
    funext fun c => congrArg Traits.ignorable (traits_toLower c)
  have hcased : cased.contains ∘ Char.toLower = cased.contains :=
    funext fun c => congrArg Traits.cased (traits_toLower c)
  rw [meetsCased, meetsCased, List.dropWhile_map, hignorable, List.head?_map, Option.map_map,
    hcased]

theorem lowerBetween_map_toLower (before : List Char) (c : Char) (after : List Char) :
    lowerBetween (before.map Char.toLower) c.toLower (after.map Char.toLower) =
      lowerBetween before c after := by
  have hsigma : c.toLower = '\u03A3' ↔ c = '\u03A3' := toLower_eq_iff (by decide)
  have hdotted : c.toLower = '\u0130' ↔ c = '\u0130' := toLower_eq_iff (by decide)
  have hchar : lowerChar c.toLower = lowerChar c := congrArg Traits.lowered (traits_toLower c)
  simp only [lowerBetween, hsigma, hdotted, hchar, meetsCased_map_toLower]

theorem lowerAfter_map_toLower (before cs : List Char) :
    lowerAfter (before.map Char.toLower) (cs.map Char.toLower) = lowerAfter before cs := by
  induction cs generalizing before with
  | nil => rfl
  | cons c cs ih =>
    rw [List.map_cons, lowerAfter, lowerAfter, lowerBetween_map_toLower, ← List.map_cons, ih]

theorem lower_map_toLower (cs : List Char) : lower (cs.map Char.toLower) = lower cs :=
  lowerAfter_map_toLower [] cs

/-! ## Names in ASCII -/

/-- One run has all capitals in ASCII. No other begins or leads there, except for the Kelvin
sign. -/
theorem caseRuns_cases {run : CaseRun} (h : run ∈ caseRuns) :
    run = ⟨0x41, 0x5A, 1, 32⟩ ∨ 0x80 ≤ run.first ∧ (run = ⟨0x212A, 0x212A, 1, -8383⟩ ∨
      0x80 ≤ run.first + run.shift ∧ run.last + run.shift < 0xD800 ∨
      0xE000 ≤ run.first + run.shift ∧ run.last + run.shift < 0x110000) := by
  revert run
  decide +kernel

theorem lowerChar_of_lt {c : Char} (h : c.toNat < 0x80) : lowerChar c = c.toLower := by
  unfold lowerChar
  split
  · next run hfind =>
    have hcovers := List.find?_some hfind
    simp only [CaseRun.covers, Bool.and_eq_true, decide_eq_true_eq] at hcovers
    rcases caseRuns_cases (List.mem_of_find?_eq_some hfind) with rfl | ⟨hbeyond, -⟩
    · have hsmall := toNat_toLower ⟨hcovers.1.1, Nat.lt_succ_of_le hcovers.1.2⟩
      exact (congrArg Char.ofNat hsmall.symm).trans (Char.ofNat_toNat c.toLower)
    · omega
  · next hfind =>
    refine (toLower_of_not_capital fun hcapital => ?_).symm
    have hnot := List.find?_eq_none.mp hfind ⟨0x41, 0x5A, 1, 32⟩ List.mem_cons_self
    refine hnot ?_
    simp only [CaseRun.covers, Nat.mod_one, beq_self_eq_true, Bool.and_true, Bool.and_eq_true,
      decide_eq_true_eq]
    omega

theorem lowerBetween_of_lt {c : Char} (before after : List Char) (h : c.toNat < 0x80) :
    lowerBetween before c after = [c.toLower] := by
  have hsigma : c ≠ '\u03A3' := by
    rintro rfl
    exact absurd h (by decide)
  have hdotted : c ≠ '\u0130' := by
    rintro rfl
    exact absurd h (by decide)
  rw [lowerBetween, if_neg hsigma, if_neg hdotted, lowerChar_of_lt h]

theorem lowerAfter_of_lt {cs : List Char} (before : List Char) (h : ∀ c ∈ cs, c.toNat < 0x80) :
    lowerAfter before cs = cs.map Char.toLower := by
  induction cs generalizing before with
  | nil => rfl
  | cons c cs ih =>
    obtain ⟨hc, hcs⟩ := List.forall_mem_cons.mp h
    rw [lowerAfter, lowerBetween_of_lt _ _ hc, ih _ hcs, List.map_cons, List.singleton_append]

theorem lowerChar_of_le {c : Char} (h : 0x80 ≤ c.toNat) :
    0x80 ≤ (lowerChar c).toNat ∨ lowerChar c = 'k' := by
  unfold lowerChar
  split
  · next run hfind =>
    have hcovers := List.find?_some hfind
    simp only [CaseRun.covers, Bool.and_eq_true, decide_eq_true_eq] at hcovers
    have hvalid : ∀ {n : Nat}, 0x80 ≤ n → n < 0xD800 ∨ 0xE000 ≤ n ∧ n < 0x110000 →
        0x80 ≤ (Char.ofNat n).toNat := by
      intro n hle hrange
      have hchar : n.isValidChar := by
        simp only [Nat.isValidChar]
        omega
      rw [Char.ofNat, dif_pos hchar]
      exact hle
    rcases caseRuns_cases (List.mem_of_find?_eq_some hfind) with
      rfl | ⟨-, rfl | ⟨hlow, hhigh⟩ | ⟨hlow, hhigh⟩⟩
    · have hlast : c.toNat ≤ 0x5A := hcovers.1.2
      omega
    · -- The run has the Kelvin sign alone.
      have hfirst : 0x212A ≤ c.toNat := hcovers.1.1
      have hlast : c.toNat ≤ 0x212A := hcovers.1.2
      have hkelvin : (c.toNat + (-8383 : Int)).toNat = 0x6B := by omega
      rw [hkelvin]
      exact .inr rfl
    · exact .inl (hvalid (by omega) (by omega))
    · exact .inl (hvalid (by omega) (by omega))
  · exact .inl h

theorem lowerBetween_of_le {c : Char} (before after : List Char) (h : 0x80 ≤ c.toNat) :
    lowerBetween before c after = ['i', '\u0307'] ∨
      ∃ d, lowerBetween before c after = [d] ∧ (0x80 ≤ d.toNat ∨ d = 'k') := by
  unfold lowerBetween
  split
  · refine .inr ⟨_, rfl, .inl ?_⟩
    split <;> decide
  · split
    · exact .inl rfl
    · exact .inr ⟨_, rfl, lowerChar_of_le h⟩

theorem lt_of_lowerAfter {before cs : List Char}
    (h : ∀ d ∈ lowerAfter before cs, d.toNat < 0x80 ∧ d ≠ 'k') : ∀ c ∈ cs, c.toNat < 0x80 := by
  induction cs generalizing before with
  | nil => exact List.forall_mem_nil _
  | cons c cs ih =>
    rw [lowerAfter] at h
    obtain ⟨hhead, hrest⟩ := List.forall_mem_append.mp h
    refine List.forall_mem_cons.mpr ⟨Nat.lt_of_not_le fun hc => ?_, ih hrest⟩
    rcases lowerBetween_of_le before cs hc with hdotted | ⟨d, hone, hd⟩
    · -- The dot is a character of its own.
      rw [hdotted] at hhead
      exact absurd (hhead '\u0307' (by simp)).1 (by decide)
    · rw [hone] at hhead
      obtain ⟨hlt, hkelvin⟩ := hhead d (List.mem_singleton_self d)
      exact hd.elim (Nat.not_le_of_lt hlt) hkelvin

theorem mem_of_mem_lowerAfter {d : Char} {before cs : List Char} (hd : d.toNat < 0x41)
    (h : d ∈ lowerAfter before cs) : d ∈ cs := by
  induction cs generalizing before with
  | nil => cases h
  | cons c cs ih =>
    rw [lowerAfter, List.mem_append] at h
    rcases h with h | h
    · by_cases hc : c.toNat < 0x80
      · rw [lowerBetween_of_lt _ _ hc, List.mem_singleton] at h
        by_cases hcapital : 0x41 ≤ c.toNat ∧ c.toNat < 0x5B
        · have hsmall := toNat_toLower hcapital
          rw [h] at hd
          omega
        · rw [h, toLower_of_not_capital hcapital]
          exact List.mem_cons_self
      · -- Beyond ASCII there is nothing that low.
        rcases lowerBetween_of_le before cs (Nat.le_of_not_lt hc) with hdotted | ⟨e, hone, he⟩
        · rw [hdotted] at h
          simp only [List.mem_cons, List.not_mem_nil, or_false] at h
          rcases h with rfl | rfl <;> exact absurd hd (by decide)
        · rw [hone, List.mem_singleton] at h
          rcases he with he | rfl
          · rw [h] at hd
            omega
          · rw [h] at hd
            exact absurd hd (by decide)
    · exact List.mem_cons_of_mem _ (ih h)

theorem lower_eq_iff {cs name : List Char} (h : ∀ d ∈ name, d.toNat < 0x80 ∧ d ≠ 'k') :
    lower cs = name ↔ cs.map Char.toLower = name := by
  constructor
  · rintro rfl
    exact (lowerAfter_of_lt [] (lt_of_lowerAfter h)).symm
  · rintro rfl
    refine lowerAfter_of_lt [] fun c hc => Nat.lt_of_not_le fun hbeyond => ?_
    obtain ⟨hlt, -⟩ := h _ (List.mem_map_of_mem hc)
    rw [toLower_of_le hbeyond] at hlt
    exact Nat.not_le_of_lt hlt hbeyond

end Calculator.Text
