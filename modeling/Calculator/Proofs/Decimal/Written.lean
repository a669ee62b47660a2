import Calculator.Proofs.Decimal.Literal
import Calculator.Proofs.Decimal.Shortest

/-!
# Written numbers read back

A written decimal is a literal of the same value (`denotes_write`). So the text of a number that is
not negative spells a lexeme, and this lexeme is the number (`Binary64.spells_text`).
-/

namespace Calculator

namespace Decimal

def Denotes (cs : List Char) (q : ℚ) : Prop :=
  ∃ d, Literal cs d ∧ d.value = q

theorem denotes_whole {whole : List Char} (hne : whole ≠ []) (hwhole : whole.all isDigit = true) :
    Denotes whole (value ⟨ofDigits whole, 0⟩) := by
  have hlit := Literal.plain hne hwhole .none rfl
  rw [List.append_nil] at hlit
  exact ⟨_, hlit, rfl⟩

theorem denotes_point {whole fraction : List Char} (hne : whole ≠ [])
    (hwhole : whole.all isDigit = true) (hfraction : fraction.all isDigit = true) :
    Denotes (whole ++ '.' :: fraction)
      (value ⟨ofDigits (whole ++ fraction), -(fraction.length : Int)⟩) := by
  have hlit := Literal.pointed hne hwhole hfraction .none rfl
  rw [List.append_nil, Int.zero_sub] at hlit
  exact ⟨_, hlit, rfl⟩

theorem denotes_positional (n : Nat) (exponent : Int) :
    Denotes (positional (Numeral.digits .ten n) ((Numeral.digits .ten n).length + exponent))
      (value ⟨n, exponent⟩) := by
  obtain ⟨hdigits, hn⟩ := digits_ten n
  have hne := digits_ne_nil .ten n
  generalize Numeral.digits .ten n = digits at *
  unfold positional
  split
  · next hlow =>
    generalize hk : (-(digits.length + exponent)).toNat = k
    have hfraction := all_isDigit_append (isDigit_zeros k) hdigits
    have hvalue : ofDigits (['0'] ++ (zeros k ++ digits)) = n := by
      rw [ofDigits_append, ofDigits_append, ofDigits_zeros, hn]
      simp [ofDigits]
    have hexponent : -((zeros k ++ digits).length : Int) = exponent := by
      simp only [zeros, List.length_append, List.length_replicate]
      omega
    have h := denotes_point (List.cons_ne_nil '0' []) rfl hfraction
    rwa [hvalue, hexponent] at h
  · split
    · next hlow hhigh =>
      obtain ⟨k, rfl⟩ : ∃ k : Nat, exponent = k := ⟨exponent.toNat, by omega⟩
      have hk : (digits.length + (k : Int)).toNat - digits.length = k := by omega
      have hwhole := all_isDigit_append hdigits (isDigit_zeros k)
      have hwne : digits ++ zeros k ≠ [] := by simp [hne]
      have hvalue : ofDigits (digits ++ zeros k ++ ['0']) = n * 10 ^ (k + 1) := by
        rw [ofDigits_append, ofDigits_append, ofDigits_zeros, hn]
        simp [ofDigits, zeros, pow_succ, mul_assoc]
      have hexponent : -((['0'] : List Char).length : Int) + (k + 1 : Nat) = k := by
        rw [List.length_singleton]
        omega
      have hfraction : ['0'].all isDigit = true := rfl
      have h := denotes_point hwne hwhole hfraction
      rw [hk]
      rwa [hvalue, value_shift, hexponent] at h
    · next hlow hhigh =>
      generalize hw : (digits.length + exponent).toNat = w
      obtain ⟨htake, hdrop⟩ := all_isDigit_split hdigits w
      have htne : digits.take w ≠ [] := by
        rw [Ne, List.take_eq_nil_iff]
        rintro (h | h)
        · omega
        · exact hne h
      have hexponent : -((digits.drop w).length : Int) = exponent := by
        rw [List.length_drop]
        omega
      have h := denotes_point htne htake hdrop
      rwa [List.take_append_drop, hn, hexponent] at h

theorem exponentText_reads (e : Int) :
    Cursor.Exponent (exponentText e) ∧ readExponent? (exponentText e) = some e := by
  obtain ⟨hdigits, hn⟩ := digits_ten e.natAbs
  have hne := digits_ne_nil .ten e.natAbs
  simp only [exponentText]
  generalize Numeral.digits .ten e.natAbs = digits at *
  generalize hcs : zeros (2 - digits.length) ++ digits = cs
  have hcne : cs ≠ [] := by simp [← hcs, hne]
  have hall : cs.all isDigit = true := hcs ▸ all_isDigit_append (isDigit_zeros _) hdigits
  have hvalue : ofDigits cs = e.natAbs := by
    rw [← hcs, ofDigits_append, ofDigits_zeros, hn, Nat.zero_mul, Nat.zero_add]
  have hread : readDigits? cs = some e.natAbs := by rw [readDigits?_of_all hcne hall, hvalue]
  rw [List.cons_append, List.cons_append, hcs]
  refine ⟨?_, ?_⟩
  · cases cs with
    | nil => exact absurd rfl hcne
    | cons c cs =>
      rw [List.all_cons, Bool.and_eq_true] at hall
      have hsign : Cursor.isSign (if e < 0 then '-' else '+') = true := by split <;> rfl
      exact .signed rfl hsign hall.1 hall.2
  · have hsigned (sign : Char) : readExponent? ('e' :: sign :: cs) = readSigned? (sign :: cs) := rfl
    rw [hsigned]
    split
    · rw [readSigned?, hread]
      change some (-(e.natAbs : Int)) = some e
      congr 1
      omega
    · rw [readSigned?, hread]
      change some (e.natAbs : Int) = some e
      congr 1
      omega

theorem denotes_scientific (n : Nat) (exponent : Int) :
    Denotes (scientific (Numeral.digits .ten n) ((Numeral.digits .ten n).length + exponent - 1))
      (value ⟨n, exponent⟩) := by
  obtain ⟨hdigits, hn⟩ := digits_ten n
  have hne := digits_ne_nil .ten n
  generalize Numeral.digits .ten n = digits at *
  obtain ⟨hmark, hread⟩ := exponentText_reads (digits.length + exponent - 1)
  unfold scientific
  have hpos : 0 < digits.length := List.length_pos_iff.mpr hne
  split
  · next hlong =>
    obtain ⟨htake, hdrop⟩ := all_isDigit_split hdigits 1
    have htne : digits.take 1 ≠ [] := by
      rw [Ne, List.take_eq_nil_iff]
      simp [hne]
    have hlit := Literal.pointed htne htake hdrop hmark hread
    have hexponent : (digits.length : Int) + exponent - 1 - (digits.drop 1).length = exponent := by
      rw [List.length_drop]
      omega
    rw [List.take_append_drop, hn, hexponent] at hlit
    exact ⟨_, by simpa using hlit, rfl⟩
  · next hshort =>
    have hlit := Literal.plain hne hdigits hmark hread
    have hexponent : (digits.length : Int) + exponent - 1 = exponent := by omega
    have htake : digits.take 1 = digits := List.take_of_length_le (by omega)
    rw [hn] at hlit
    exact ⟨_, by simpa [htake] using hlit, by rw [hexponent]⟩

theorem denotes_write (d : Decimal) : Denotes d.write d.value := by
  obtain ⟨n, exponent⟩ := d
  simp only [write]
  split
  · exact denotes_positional n exponent
  · exact denotes_scientific n exponent

end Decimal

namespace Binary64

theorem literal_writeMagnitude {units : Nat} (h : gap units ∣ units) :
    ∃ d, Decimal.Literal (writeMagnitude units) d ∧ d.units = units := by
  unfold writeMagnitude
  split
  · next hzero =>
    have hlit : Decimal.Literal (['0'] ++ '.' :: (['0'] ++ [])) _ :=
      .pointed (List.cons_ne_nil '0' []) rfl rfl .none rfl
    exact ⟨_, hlit, (Decimal.units_of_digits_eq_zero rfl).trans hzero.symm⟩
  · obtain ⟨d, hlit, hvalue⟩ := Decimal.denotes_write (Decimal.shortest units)
    refine ⟨d, hlit, ?_⟩
    rw [Decimal.units_eq_of_value_eq hvalue, Decimal.shortest_units h]

theorem spells_text {units : Nat} (h : Representable units) :
    Cursor.Spells (finite false units h).write
      (.number (finite false units h).text (finite false units h)) := by
  obtain ⟨d, hlit, hunits⟩ := literal_writeMagnitude h.2
  have hspells := Cursor.Spells.number hlit.numeric hlit.read?
  rwa [Decimal.toBinary64_of_units false hunits h] at hspells

end Binary64

end Calculator
