import Calculator.Proofs.Binary64.Nearest
import Calculator.Proofs.Decimal.Written
import Calculator.Proofs.Numeral.Canonical
import Calculator.Proofs.Value.Display

/-!
# Rounded decimals

A number that has been rounded to decimal places is not farther from the rounded decimal than it was
before, so it is not changed by being rounded again (`rounded_units_rounded`). With 324 places or
more nothing is lost (`units_rounded_of_fine`). The text of a rounded decimal denotes it also when
the zeros at its end are dropped (`denotes_fixed`).
-/

namespace Calculator.Decimal

open Binary64 (one gap nearest roundUnits)

/-! ## Rounding again -/

theorem rounded_natCast (units count : Nat) :
    rounded units count = ⟨nearest (units * 10 ^ count) one, -count⟩ := by
  simp [rounded]

theorem dist_units_rounded_le {units : Nat} (h : gap units ∣ units) (count : Nat) :
    (nearest (units * 10 ^ count) one * one).dist ((rounded units count).units * 10 ^ count) ≤
      (nearest (units * 10 ^ count) one * one).dist (units * 10 ^ count) := by
  rw [units_rounded, Nat.dist_comm _ (_ * 10 ^ count), Nat.dist_comm _ (_ * 10 ^ count)]
  exact Binary64.dist_roundUnits_le (Nat.pow_pos (by decide)) _ h

theorem rounded_units_rounded {units : Nat} (h : gap units ∣ units) (count : Nat) :
    rounded (rounded units count).units count = rounded units count := by
  have hsame := Binary64.nearest_of_dist_le Binary64.one_pos (dist_units_rounded_le h count)
  rw [rounded_natCast, hsame, rounded_natCast]

theorem one_lt : one < 10 ^ 324 := by decide +kernel

theorem units_rounded_of_fine {units : Nat} (h : gap units ∣ units) {count : Nat}
    (hfine : 324 ≤ count) : (rounded units count).units = units := by
  have hpow : one < 10 ^ count := calc
    one < 10 ^ 324 := one_lt
    _ ≤ 10 ^ count := by gcongr; decide
  obtain ⟨hhalf, -⟩ := Binary64.two_mul_dist_nearest_le Binary64.one_pos (units * 10 ^ count)
  have hnear := dist_units_rounded_le h count
  generalize (rounded units count).units = units' at *
  generalize nearest (units * 10 ^ count) one * one = decimal at *
  -- Rounding to a decimal and back moves by half of its step each time, so by less than one unit.
  have hdist : units'.dist units * 10 ^ count < 1 * 10 ^ count := calc
    units'.dist units * 10 ^ count
        = (units' * 10 ^ count).dist (units * 10 ^ count) := (Nat.dist_mul_right ..).symm
    _ ≤ (units' * 10 ^ count).dist decimal + decimal.dist (units * 10 ^ count) :=
        Nat.dist.triangle_inequality ..
    _ ≤ one := by
        rw [Nat.dist_comm _ decimal]
        omega
    _ < 1 * 10 ^ count := by rwa [Nat.one_mul]
  have hzero := Nat.lt_of_mul_lt_mul_right hdist
  exact Nat.eq_of_dist_eq_zero (by omega)

/-! ## The text of a rounded decimal -/

theorem trimmed_take {digits : List Char} (h : Numeral.Trimmed digits) (places : Nat) :
    let padded := zeros (places + 1 - digits.length) ++ digits
    Numeral.Trimmed (padded.take (padded.length - places)) := by
  intro padded hhead
  rcases Nat.lt_or_ge places digits.length with hlong | hshort
  · have hnone : places + 1 - digits.length = 0 := by omega
    have hpadded : padded = digits := by simp [padded, hnone, zeros]
    obtain ⟨m, hm⟩ : ∃ m, digits.length - places = m + 1 := ⟨digits.length - places - 1, by omega⟩
    rw [hpadded, hm] at hhead ⊢
    rw [List.head?_take, if_neg (Nat.succ_ne_zero m)] at hhead
    rw [h hhead, List.take_succ_cons, List.take_nil]
  · -- A single zero of those in front is left.
    obtain ⟨k, hk⟩ : ∃ k, places + 1 - digits.length = k + 1 :=
      ⟨places - digits.length, by omega⟩
    have hlength : padded.length - places = 1 := by
      simp only [padded, hk, zeros, List.length_append, List.length_replicate]
      omega
    rw [hlength]
    simp [padded, hk, zeros, List.replicate_succ]

theorem exists_fixed (units places : Nat) : ∃ whole fraction,
    fixed units places = whole ++ '.' :: fraction ∧ whole ≠ [] ∧ whole.all isDigit = true ∧
      Numeral.Trimmed whole ∧ fraction.all isDigit = true ∧
      rounded units places = ⟨ofDigits (whole ++ fraction), -(fraction.length : Int)⟩ := by
  simp only [fixed, rounded_natCast]
  generalize nearest (units * 10 ^ places) one = n
  obtain ⟨hdigits, hvalue⟩ := digits_ten n
  have htrimmed := Numeral.trimmed_digits .ten n
  generalize Numeral.digits .ten n = digits at *
  have hall := all_isDigit_append (isDigit_zeros (places + 1 - digits.length)) hdigits
  have hsame : ofDigits (zeros (places + 1 - digits.length) ++ digits) = ofDigits digits := by
    rw [ofDigits_append, ofDigits_zeros, Nat.zero_mul, Nat.zero_add]
  have hwhole := trimmed_take htrimmed places
  have hlength : places < (zeros (places + 1 - digits.length) ++ digits).length := by
    rw [List.length_append, zeros, List.length_replicate]
    omega
  generalize zeros (places + 1 - digits.length) ++ digits = padded at *
  obtain ⟨htake, hdrop⟩ := all_isDigit_split hall (padded.length - places)
  refine ⟨_, _, rfl, ?_, htake, hwhole, hdrop, ?_⟩
  · rw [Ne, List.take_eq_nil_iff]
    rintro (h | h)
    · omega
    · simp [h] at hlength
  · have hexponent : (padded.drop (padded.length - places)).length = places := by
      rw [List.length_drop]
      omega
    rw [List.take_append_drop, hsame, hvalue, hexponent]

theorem exists_trimZeros (whole : List Char) {fraction : List Char}
    (hfraction : fraction.all isDigit = true) :
    ∃ kept k, fraction = kept ++ zeros k ∧ kept.getLast? ≠ some '0' ∧
      trimZeros (whole ++ '.' :: fraction) =
        if kept = [] then whole else whole ++ '.' :: kept := by
  have hsplit := @List.takeWhile_append_dropWhile _ (· == '0') fraction.reverse
  have hzeros : (fraction.reverse.takeWhile (· == '0')).all (· == '0') = true := List.all_takeWhile
  have hhead := Text.head?_dropWhile_any (· == '0') fraction.reverse
  generalize fraction.reverse.dropWhile (· == '0') = kept at *
  generalize fraction.reverse.takeWhile (· == '0') = dropped at *
  have hdropped : dropped = zeros dropped.length :=
    List.eq_replicate_iff.mpr ⟨rfl, by simpa using hzeros⟩
  have hfront : (kept ++ '.' :: whole.reverse).head?.any (· == '0') = false := by
    cases kept with
    | nil => rfl
    | cons c kept => exact hhead
  have htrimmed : (whole ++ '.' :: fraction).reverse.dropWhile (· == '0') =
      kept ++ '.' :: whole.reverse := by
    rw [List.reverse_append, List.reverse_cons, ← hsplit, List.append_assoc, List.append_assoc,
      List.singleton_append, Text.dropWhile_append_of_stop hzeros hfront]
  refine ⟨kept.reverse, dropped.length, ?_, ?_, ?_⟩
  · rw [← List.reverse_reverse fraction, ← hsplit, List.reverse_append, hdropped, zeros,
      List.reverse_replicate, List.length_replicate]
    rfl
  · rw [List.getLast?_reverse]
    intro hzero
    simp [hzero] at hhead
  · simp only [trimZeros, htrimmed]
    cases kept with
    | nil => simp
    | cons c kept =>
      have hdigit : isDigit c = true := by
        have hmem : c ∈ fraction.reverse :=
          hsplit ▸ List.mem_append_right dropped List.mem_cons_self
        exact List.all_eq_true.mp hfraction c (List.mem_reverse.mp hmem)
      have hpoint : c ≠ '.' := by
        rintro rfl
        cases hdigit
      simp [hpoint]

theorem value_append_zeros (cs kept : List Char) (k : Nat) :
    value ⟨ofDigits (cs ++ (kept ++ zeros k)), -((kept ++ zeros k).length : Int)⟩ =
      value ⟨ofDigits (cs ++ kept), -(kept.length : Int)⟩ := by
  have hexponent : -((kept ++ zeros k).length : Int) + k = -(kept.length : Int) := by
    simp only [zeros, List.length_append, List.length_replicate]
    omega
  rw [← hexponent, ← value_shift, ← List.append_assoc, ofDigits_append, ofDigits_zeros,
    Nat.add_zero, zeros, List.length_replicate]

theorem denotes_trimZeros {whole fraction : List Char} (hne : whole ≠ [])
    (hwhole : whole.all isDigit = true) (hfraction : fraction.all isDigit = true) :
    Denotes (trimZeros (whole ++ '.' :: fraction))
      (value ⟨ofDigits (whole ++ fraction), -(fraction.length : Int)⟩) := by
  obtain ⟨kept, k, rfl, -, htrim⟩ := exists_trimZeros whole hfraction
  have hkept : kept.all isDigit = true := by
    rw [List.all_append, Bool.and_eq_true] at hfraction
    exact hfraction.1
  rw [htrim, value_append_zeros]
  split
  · next hnil =>
    rw [hnil, List.append_nil]
    exact denotes_whole hne hwhole
  · exact denotes_point hne hwhole hkept

theorem denotes_fixed (units places : Nat) :
    Denotes (trimZeros (fixed units places)) (rounded units places).value := by
  obtain ⟨whole, fraction, hfixed, hne, hwhole, -, hfraction, hrounded⟩ := exists_fixed units places
  rw [hfixed, hrounded]
  exact denotes_trimZeros hne hwhole hfraction

end Calculator.Decimal
