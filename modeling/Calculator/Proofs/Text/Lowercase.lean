import Calculator.Proofs.Text.Classes
import Calculator.Text.Lowercase

/-!
# Lower case

No lower case is blank (`isBlank_lower`), so a name in lower case has no blanks at its ends. A name
is as long as before, except for each capital I with a dot above (`length_lower`).
-/

namespace Calculator.Text

theorem Ranges.contains_ofNat {r : Ranges} {n : Nat} (h : r.contains (Char.ofNat n) = true) :
    (∃ i ∈ r, i.1 ≤ n ∧ n ≤ i.2) ∨ r.contains '\x00' = true := by
  by_cases hn : n.isValidChar
  · rw [Char.ofNat, dif_pos hn] at h
    exact .inl (Ranges.contains_iff.mp h)
  · rw [Char.ofNat, dif_neg hn] at h
    exact .inr h

theorem caseRuns_apart_blanks :
    caseRuns.all (fun run => blanks.all fun b => decide (0 < b.1) &&
      (decide (run.last + run.shift < b.1) || decide (b.2 < run.first + run.shift))) = true := by
  decide +kernel

theorem isBlank_lowerChar {c : Char} (h : isBlank c = false) : isBlank (lowerChar c) = false := by
  unfold lowerChar
  split
  · next run hfind =>
    have hcovers := List.find?_some hfind
    have hapart := List.all_eq_true.mp caseRuns_apart_blanks run (List.mem_of_find?_eq_some hfind)
    simp only [CaseRun.covers, Bool.and_eq_true, decide_eq_true_eq] at hcovers
    rw [Bool.eq_false_iff]
    intro hblank
    rcases Ranges.contains_ofNat hblank with ⟨b, hb, h₁, h₂⟩ | hnul
    · have := List.all_eq_true.mp hapart b hb
      simp only [Bool.and_eq_true, Bool.or_eq_true, decide_eq_true_eq] at this
      omega
    · exact absurd hnul (by decide)
  · exact h

theorem isBlank_lowerBetween {c : Char} (before after : List Char) (h : isBlank c = false) :
    ∀ d ∈ lowerBetween before c after, isBlank d = false := by
  unfold lowerBetween
  split
  · refine List.forall_mem_singleton.mpr ?_
    split <;> decide
  · split
    · exact List.forall_mem_cons.mpr ⟨by decide, List.forall_mem_singleton.mpr (by decide)⟩
    · exact List.forall_mem_singleton.mpr (isBlank_lowerChar h)

theorem isBlank_lowerAfter {cs : List Char} (before : List Char)
    (h : ∀ c ∈ cs, isBlank c = false) : ∀ d ∈ lowerAfter before cs, isBlank d = false := by
  induction cs generalizing before with
  | nil => exact fun d hd => nomatch hd
  | cons c cs ih =>
    obtain ⟨hc, hcs⟩ := List.forall_mem_cons.mp h
    exact List.forall_mem_append.mpr ⟨isBlank_lowerBetween _ _ hc, ih _ hcs⟩

theorem isBlank_lower {cs : List Char} (h : ∀ c ∈ cs, isBlank c = false) :
    ∀ d ∈ lower cs, isBlank d = false :=
  isBlank_lowerAfter [] h

/-! ## Length -/

theorem length_lowerBetween (before : List Char) (c : Char) (after : List Char) :
    (lowerBetween before c after).length = 1 + [c].count '\u0130' := by
  unfold lowerBetween
  split
  · next hsigma => simp [hsigma]
  · split
    · next hdotted => simp [hdotted]
    · next hdotted => simp [hdotted]

theorem length_lowerAfter (before cs : List Char) :
    (lowerAfter before cs).length = cs.length + cs.count '\u0130' := by
  induction cs generalizing before with
  | nil => rfl
  | cons c cs ih =>
    have hcount : (c :: cs).count '\u0130' = [c].count '\u0130' + cs.count '\u0130' := by
      rw [← List.count_append, List.singleton_append]
    rw [lowerAfter, List.length_append, length_lowerBetween, ih, List.length_cons, hcount]
    omega

theorem length_lower (cs : List Char) : (lower cs).length = cs.length + cs.count '\u0130' :=
  length_lowerAfter [] cs

end Calculator.Text
