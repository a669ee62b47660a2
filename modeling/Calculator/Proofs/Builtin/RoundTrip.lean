import Calculator.Proofs.Binary64.Whole
import Calculator.Proofs.Builtin.Conversion
import Calculator.Proofs.Numeral.Canonical

/-!
# Numerals there and back

Reading and writing in one base undo each other (`toDecimal_fromDecimal`). Through base ten a
numeral goes by way of a number: it comes back if its integer is a number, and otherwise the nearest
integer that is one comes back (`base_through_ten`).
-/

namespace Calculator.Conversion

/-! ## In one base -/

/-- What is read is all that is a numeral and nothing else. Writing undoes reading but for the zeros in
front and the case of letters, and reading undoes writing. -/
theorem toDecimal_fromDecimal (base : Base) :
    (∀ text, (∃ n, toDecimal text base = .ok n) ↔ Numeral.Admitted base text.toList) ∧
      (∀ text n, toDecimal text base = .ok n → Numeral.Spells base text.toList n ∧
        fromDecimal n base = String.ofList (Numeral.normal text.toList)) ∧
      ∀ n, Numeral.Canonical (fromDecimal n base).toList ∧
        (fromDecimal n base).toList.map Char.toUpper = (fromDecimal n base).toList ∧
        toDecimal (fromDecimal n base) base = .ok n := by
  refine ⟨?_, ?_, ?_⟩
  · intro text
    simp only [toDecimal_eq_ok]
    exact Numeral.exists_spells_iff
  · intro text n h
    have hspells := toDecimal_eq_ok.mp h
    refine ⟨hspells, ?_⟩
    rw [fromDecimal, Numeral.write_of_spells hspells]
  · intro n
    have hspells := Numeral.spells_write base n
    have hcanonical := Numeral.canonical_write base n
    rw [toDecimal_eq_ok, fromDecimal, String.toList_ofList]
    exact ⟨hcanonical, (Numeral.write_of_canonical hspells hcanonical).symm, hspells⟩

theorem toDecimal_fromDecimal_zeros :
    let base : Base := ⟨36, by decide, by decide⟩
    toDecimal "-00zZ" base = .ok (-1295) ∧ Numeral.Spells base "-00zZ".toList (-1295) ∧
      fromDecimal (-1295) base = "-ZZ" := by
  intro base
  have hread : toDecimal "-00zZ" base = .ok (-1295) := by decide +kernel
  obtain ⟨-, hwritten, -⟩ := toDecimal_fromDecimal base
  obtain ⟨hspells, hback⟩ := hwritten _ _ hread
  have hnormal : Numeral.normal "-00zZ".toList = "-ZZ".toList := by decide
  rw [hnormal, String.ofList_toList] at hback
  exact ⟨hread, hspells, hback⟩

/-! ## Through base ten -/

theorem denotes_number {x : Binary64} {m : Int} (h : x.toInt? = some m) :
    Denotes .ten (.number x) m := by
  refine .number h ?_
  rw [Numeral.toList_toString]
  exact Numeral.spells_write .ten m

/-- The value goes to the number `x`, of the integer `m`, and comes back as a numeral. -/
structure Returns (value source ten : Value) (numeral : String) (b : Base) (n : Int)
    (x : Binary64) (m : Int) : Prop where
  there : Builtin.base.apply [value, source, ten] = .ok (.number x)
  whole : x.toInt? = some m
  nearest : ∀ (y : Binary64) k, y.toInt? = some k → (n - m).natAbs ≤ (n - k).natAbs
  back : Builtin.base.apply [.number x, ten, source] = .ok (.text (fromDecimal m b))
  same_iff : (fromDecimal m b).toList = numeral.toList.map Char.toUpper ↔
    ∃ y : Binary64, y.toInt? = some n
  same_of_le : n.natAbs ≤ 2 ^ 53 → (fromDecimal m b).toList = numeral.toList.map Char.toUpper

/-- A canonical numeral of another base comes back in capitals if and only if its integer is a
number. Only an integer that is too large for any number is refused. -/
theorem base_through_ten {value source ten : Value} {numeral : String} {b : Base} {n : Int}
    (hvalue : digitsOf value = .ok numeral) (hspells : Numeral.Spells b numeral.toList n)
    (hcanonical : Numeral.Canonical numeral.toList) (hsource : baseOf source = .ok b)
    (hten : baseOf ten = .ok .ten) (hother : b ≠ .ten) :
    (n.natAbs < 2 ^ 1024 - 2 ^ 970 ∧ ∃ x m, Returns value source ten numeral b n x m) ∨
      (2 ^ 1024 - 2 ^ 970 ≤ n.natAbs ∧
        Builtin.base.apply [value, source, ten] = .error (.tooLarge numeral)) := by
  have hthere : Builtin.base.apply [value, source, ten] = express numeral n .ten :=
    convert_of_digits hsource hten hvalue hspells
  rw [express, if_pos rfl] at hthere
  rw [← Nat.not_lt, ← Binary64.isFinite_ofInt]
  by_cases hfinite : (Binary64.ofInt n).isFinite = true
  · refine .inl ⟨hfinite, .ofInt n, Binary64.nearestInt n, ?_⟩
    rw [if_pos hfinite] at hthere
    have hwhole := Binary64.toInt?_ofInt hfinite
    have hnumeral : Numeral.write b n = numeral.toList.map Char.toUpper :=
      Numeral.write_of_canonical hspells hcanonical
    have hsame : (fromDecimal (Binary64.nearestInt n) b).toList = numeral.toList.map Char.toUpper ↔
        ∃ y : Binary64, y.toInt? = some n := by
      rw [fromDecimal, String.toList_ofList, ← hnumeral, Numeral.write_inj]
      exact Binary64.nearestInt_eq_self_iff hfinite
    constructor
    case there => exact hthere
    case whole => exact hwhole
    case nearest => exact fun y k hy => Binary64.natAbs_sub_nearestInt_le n hy
    case back =>
      exact (convert_eq_ok hten hsource (denotes_number hwhole)).mpr (.text hother)
    case same_iff => exact hsame
    case same_of_le => exact fun hsmall => hsame.mpr (Binary64.exists_toInt?_of_le hsmall)
  · rw [if_neg hfinite] at hthere
    exact .inr ⟨hfinite, hthere⟩

theorem base_through_ten_letters :
    let b : Base := ⟨16, by decide, by decide⟩
    digitsOf (.text "-1fffffffffffff") = .ok "-1fffffffffffff" ∧
      Numeral.Spells b "-1fffffffffffff".toList (1 - 2 ^ 53) ∧
      Numeral.Canonical "-1fffffffffffff".toList ∧ baseOf (.text "16") = .ok b ∧
      baseOf (.text "10.0") = .ok .ten ∧ b ≠ .ten ∧
      ∃ x, Builtin.base.apply [.text "-1fffffffffffff", .text "16", .text "10.0"] =
          .ok (.number x) ∧
        Builtin.base.apply [.number x, .text "10.0", .text "16"] =
          .ok (.text "-1FFFFFFFFFFFFF") := by
  intro b
  have hvalue : digitsOf (.text "-1fffffffffffff") = .ok "-1fffffffffffff" := by decide +kernel
  have hspells : Numeral.Spells b "-1fffffffffffff".toList (1 - 2 ^ 53) :=
    Numeral.read?_eq_some.mp (by decide +kernel)
  have hcanonical : Numeral.Canonical "-1fffffffffffff".toList :=
    .minus (by decide) (by decide)
  have hsource : baseOf (.text "16") = .ok b := by decide +kernel
  have hten : baseOf (.text "10.0") = .ok .ten := by decide +kernel
  have hother : b ≠ .ten := by decide
  refine ⟨hvalue, hspells, hcanonical, hsource, hten, hother, ?_⟩
  rcases base_through_ten hvalue hspells hcanonical hsource hten hother with
    ⟨-, x, m, hreturns⟩ | ⟨hlarge, -⟩
  · have hsame := hreturns.same_of_le (by decide)
    have hupper : "-1fffffffffffff".toList.map Char.toUpper = "-1FFFFFFFFFFFFF".toList := by decide
    rw [hupper, String.toList_inj] at hsame
    exact ⟨x, hreturns.there, hsame ▸ hreturns.back⟩
  · exact absurd hlarge (by decide +kernel)

/-- The first integer that is no number comes back as its neighbour, and 2^1024 does not even get
to base ten. -/
theorem base_through_ten_not_lossless :
    let b : Base := ⟨16, by decide, by decide⟩
    let large := '1' :: List.replicate 256 '0'
    (Numeral.Spells b "20000000000001".toList (2 ^ 53 + 1) ∧
      Numeral.Canonical "20000000000001".toList ∧
      ∃ x, Builtin.base.apply [.text "20000000000001", .text "16", .text "10"] =
          .ok (.number x) ∧
        Builtin.base.apply [.number x, .text "10", .text "16"] =
          .ok (.text "20000000000000")) ∧
      Numeral.Spells b large (2 ^ 1024) ∧ Numeral.Canonical large ∧
      Builtin.base.apply [.text (String.ofList large), .text "16", .text "10"] =
        .error (.tooLarge (String.ofList large)) := by
  intro b large
  have hsource : baseOf (.text "16") = .ok b := by decide +kernel
  have hten : baseOf (.text "10") = .ok .ten := by decide +kernel
  have hspells : Numeral.Spells b large (2 ^ 1024) :=
    Numeral.read?_eq_some.mp (by decide +kernel)
  have hlarge : Builtin.base.apply [.text (String.ofList large), .text "16", .text "10"] =
      express (String.ofList large) (2 ^ 1024) .ten :=
    convert_of_digits hsource hten (digitsOf_ofList hspells.point_notMem)
      (by rwa [String.toList_ofList])
  rw [express, if_pos rfl, if_neg (by rw [Binary64.isFinite_ofInt]; decide +kernel)] at hlarge
  refine ⟨⟨Numeral.read?_eq_some.mp (by decide +kernel), ?_, .ofInt (2 ^ 53), ?_, ?_⟩, hspells, ?_,
    hlarge⟩
  · exact .unsigned (by decide) (by decide)
  · decide +kernel
  · decide +kernel
  · exact .unsigned (by decide) fun hzero => absurd (Option.some.inj hzero) (by decide)

end Calculator.Conversion
