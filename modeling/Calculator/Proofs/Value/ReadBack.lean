import Calculator.Proofs.Decimal.Places
import Calculator.Proofs.Expr.Composed
import Calculator.Proofs.Text.SourceLine
import Calculator.Proofs.Worksheet.Run

/-!
# Displayed numbers read back

Every text that a finite number is displayed as is an expression of the language: a literal,
possibly behind a minus sign. Calculating it gives the number as it was rounded for display, and
this number has the same text again (`Value.calculate_display`). Only the sign of a zero is lost.
-/

namespace Calculator

/-! ## Reading a literal -/

section

variable {negative : Bool} {text : String} {cs : List Char} {d : Decimal} {units : Nat}

theorem calculate_literal (functions : Registry) (h : Binary64.Representable units)
    (hlit : Decimal.Literal cs d) (hunits : d.units = units)
    (htext : text.toList = (if negative then ['-'] else []) ++ cs) :
    calculate functions text = .ok (some (.number (.finite negative units h))) := by
  let l : Lexeme := .number (String.ofList cs) (.finite false units h)
  have hspells : Cursor.SpellsAll cs [l] := by
    have hnumber := Cursor.Spells.number hlit.numeric hlit.read?
    rw [Decimal.toBinary64_of_units false hunits h] at hnumber
    have hgap : ([] : List Char).all Text.isBlank = true := rfl
    simpa using Cursor.SpellsAll.cons hgap hnumber rfl (.nil hgap)
  have hd : Reader.Derives .factor [l] (.number (.finite false units h)) := .number _ _
  have hreach : Reader.Phrase.Reaches .factor [l] 0 := .operand fun _ _ => rfl
  cases negative with
  | false =>
    rw [← show text.toList = cs from htext] at hspells
    have hread := Reader.read_of_derives (some nestingLimit) hspells (.term (.factor hd))
      hreach.term.expression
    rw [calculate_of_read (parse_eq_some_iff.mpr hread)]
    rfl
  | true =>
    have hminus : Cursor.SpellsAll text.toList [.operator (.sum .minus), l] := by
      rw [htext]
      exact .symbol_cons rfl hspells
    have hread := Reader.read_of_derives (some nestingLimit) hminus
      (.term (.factor (.signed .minus hd))) (hreach.signed .minus).term.expression
    rw [calculate_of_read (parse_eq_some_iff.mpr hread)]
    rfl

end

/-! ## Rounded numbers -/

def Binary64.toRat? : Binary64 → Option ℚ
  | .finite negative units _ => some (signed negative units / one)
  | _ => none

namespace Precision

/-- A finite number can be displayed at the precision. -/
def Accepted : Precision → Prop
  | .shortest => True
  | .places count => 0 ≤ count ∧ count < 2 ^ 31
  | .missing => False

/-- What a finite number is rounded to before it is displayed. -/
def round : Precision → Binary64 → Binary64
  | .places count, x => x.toPlaces count
  | .shortest, x | .missing, x => x

/-- A magnitude that is its own rounding. -/
def Settled (precision : Precision) (units : Nat) (h : Binary64.Representable units) : Prop :=
  ∀ negative, precision.round (.finite negative units h) = .finite negative units h

end Precision

namespace Binary64

variable {units : Nat} {precision : Precision}

theorem representable_rounded (h : Representable units) (count : Nat) :
    Representable (Decimal.rounded units count).units :=
  ⟨units_rounded_lt h count, Decimal.gap_dvd_units _⟩

theorem toPlaces_natCast (negative : Bool) (h : Representable units) (count : Nat) :
    (finite negative units h).toPlaces count =
      finite negative (Decimal.rounded units count).units (representable_rounded h count) := by
  rw [toPlaces]
  split
  · next hfine =>
    have hsame := @Decimal.units_rounded_of_fine units h.2 count (by omega)
    simp only [hsame]
  · rw [if_neg (by omega)]
    exact Decimal.toBinary64_of_units negative rfl (representable_rounded h count)

theorem units_rounded_of_settled {h : Representable units} {count : Nat}
    (hsettled : Precision.Settled (.places count) units h) :
    (Decimal.rounded units count).units = units := by
  have hround := hsettled false
  rw [Precision.round, toPlaces_natCast, finite.injEq] at hround
  exact hround.2

theorem settled_rounded (h : Representable units) (count : Nat) :
    Precision.Settled (.places count) (Decimal.rounded units count).units
      (representable_rounded h count) := by
  intro negative
  rw [Precision.round, toPlaces_natCast]
  simp only [Decimal.rounded_units_rounded h.2 count]

theorem exists_settled (haccepted : precision.Accepted) (negative : Bool)
    (h : Representable units) : ∃ units' h', precision.round (finite negative units h) =
      finite negative units' h' ∧ precision.Settled units' h' := by
  cases precision with
  | shortest => exact ⟨units, h, rfl, fun _ => rfl⟩
  | missing => exact haccepted.elim
  | places count =>
    obtain ⟨n, rfl⟩ := Int.eq_ofNat_of_zero_le haccepted.1
    exact ⟨_, _, toPlaces_natCast negative h n, settled_rounded h n⟩

theorem display_of_round (haccepted : precision.Accepted) {negative negative' : Bool}
    {units' : Nat} {h : Representable units} {h' : Representable units'}
    (hround : precision.round (finite negative units h) = finite negative' units' h')
    (hsettled : precision.Settled units' h') : (finite negative units h).display precision =
      (finite negative' units' h').display precision := by
  cases precision with
  | shortest =>
    cases hround
    rfl
  | missing => exact haccepted.elim
  | places count =>
    have hagain : (finite negative' units' h').toPlaces count = finite negative' units' h' :=
      hsettled negative'
    rw [Precision.round] at hround
    simp only [display, hround, hagain]

theorem display_whole (haccepted : precision.Accepted) (negative : Bool) {h : Representable units}
    (hsettled : precision.Settled units h) (hwhole : one ∣ units) :
    (finite negative units h).display precision =
      .ok (toString (signed negative (units / one))) := by
  have hint : (finite negative units h).toInt? = some (signed negative (units / one)) :=
    if_pos (Nat.mod_eq_zero_of_dvd hwhole)
  cases precision with
  | shortest => simp only [display, hint, Option.elim_some]
  | missing => exact haccepted.elim
  | places count =>
    have hround : (finite negative units h).toPlaces count = finite negative units h :=
      hsettled negative
    simp only [display, hround, displayRounded, hint]

theorem display_places_fraction (negative : Bool) {h : Representable units} {count : Nat}
    (hformat : count < 2 ^ 31) (hsettled : Precision.Settled (.places count) units h)
    (hfraction : ¬one ∣ units) : (finite negative units h).display (.places count) =
      .ok (String.ofList ((if negative then ['-'] else []) ++
        Decimal.trimZeros (Decimal.fixed units (min count maxPlaces)))) := by
  have hint : (finite negative units h).toInt? = none :=
    if_neg fun hmod => hfraction (Nat.dvd_of_mod_eq_zero hmod)
  have hround : (finite negative units h).toPlaces count = finite negative units h :=
    hsettled negative
  simp only [display, hround, displayRounded, hint, displayFraction]
  rw [if_neg (by omega), if_neg (by omega)]
  cases negative <;> rfl

theorem display_fraction (haccepted : precision.Accepted) (negative : Bool)
    {h : Representable units} (hsettled : precision.Settled units h) (hfraction : ¬one ∣ units) :
    ∃ text cs d, (finite negative units h).display precision = .ok text ∧
      text.toList = (if negative then ['-'] else []) ++ cs ∧ Decimal.Literal cs d ∧
      d.units = units := by
  cases precision with
  | shortest =>
    have hint : (finite negative units h).toInt? = none :=
      if_neg fun hmod => hfraction (Nat.dvd_of_mod_eq_zero hmod)
    obtain ⟨d, hlit, hunits⟩ := literal_writeMagnitude h.2
    refine ⟨(finite negative units h).text, _, d, ?_, ?_, hlit, hunits⟩
    · simp only [display, hint, Option.elim_none]
    · rw [text, String.toList_ofList, write]
  | missing => exact haccepted.elim
  | places count =>
    obtain ⟨hcount, hformat⟩ := haccepted
    obtain ⟨n, rfl⟩ := Int.eq_ofNat_of_zero_le hcount
    obtain ⟨d, hlit, hvalue⟩ := Decimal.denotes_fixed units (min n maxPlaces)
    have hunits : d.units = units := by
      rw [Decimal.units_eq_of_value_eq hvalue]
      rcases Nat.le_total n maxPlaces with hle | hge
      · rw [Nat.min_eq_left hle, units_rounded_of_settled hsettled]
      · rw [Nat.min_eq_right hge, Decimal.units_rounded_of_fine h.2 (by decide)]
    exact ⟨_, _, d, display_places_fraction negative (by omega) hsettled hfraction,
      String.toList_ofList, hlit, hunits⟩

/-! ## Reading back -/

theorem signed_of_shown {negative : Bool} {magnitude : Nat} (hzero : magnitude = 0 → units = 0) :
    signed (decide (signed negative magnitude < 0)) units = signed negative units := by
  cases negative with
  | false => simp [signed]
  | true =>
    rcases Nat.eq_zero_or_pos magnitude with rfl | hpos
    · simp [signed, hzero]
    · simp [signed, hpos]

theorem units_of_whole (hgap : gap units ∣ units) (hwhole : one ∣ units) :
    (⟨units / one, 0⟩ : Decimal).units = units := calc
  (⟨units / one, 0⟩ : Decimal).units = roundUnits (units / one * one) 1 := by simp [Decimal.units]
  _ = units := by rw [Nat.div_mul_cancel hwhole, roundUnits_of_gap_dvd hgap]

/-- A number that has been rounded reads back, up to the sign of zero. -/
theorem calculate_settled (functions : Registry) (haccepted : precision.Accepted)
    (negative : Bool) {h : Representable units} (hsettled : precision.Settled units h) :
    ∃ text negative', (finite negative units h).display precision = .ok text ∧
      calculate functions text = .ok (some (.number (finite negative' units h))) ∧
      signed negative' units = signed negative units ∧
      (finite negative' units h).display precision = .ok text := by
  by_cases hwhole : one ∣ units
  · -- The text of zero has no sign, so that what is read back may be the other zero.
    let n := signed negative (units / one)
    have hzero : units / one = 0 → units = 0 := fun hzero => by
      rw [← Nat.div_mul_cancel hwhole, hzero, Nat.zero_mul]
    have habs : n.natAbs = units / one := natAbs_signed negative _
    obtain ⟨hdigits, hvalue⟩ := Decimal.digits_ten (units / one)
    obtain ⟨d, hlit, hd⟩ := Decimal.denotes_whole (Decimal.digits_ne_nil .ten _) hdigits
    rw [hvalue] at hd
    have hunits : d.units = units := by
      rw [Decimal.units_eq_of_value_eq hd, units_of_whole h.2 hwhole]
    have htext : (toString n).toList = (if decide (n < 0) then ['-'] else []) ++
        Numeral.digits .ten (units / one) := by
      rw [Numeral.toList_toString, Numeral.write, habs]
      split <;> simp_all
    refine ⟨toString n, decide (n < 0), display_whole haccepted negative hsettled hwhole,
      calculate_literal functions h hlit hunits htext, signed_of_shown hzero, ?_⟩
    rw [display_whole haccepted _ hsettled hwhole, signed_of_shown id]
  · obtain ⟨text, cs, d, hdisplay, htext, hlit, hunits⟩ :=
      display_fraction haccepted negative hsettled hwhole
    exact ⟨text, negative, hdisplay, calculate_literal functions h hlit hunits htext, rfl, hdisplay⟩

end Binary64

/-- The text of a finite number has the value that the number was rounded to, and this value is
displayed by the same text. -/
theorem Value.calculate_display {x : Binary64} {precision : Precision} (functions : Registry)
    (hfinite : x.isFinite = true) (haccepted : precision.Accepted) :
    ∃ text y value, (Value.number x).display precision = .ok text ∧
      calculate functions text = .ok (some (.number y)) ∧ y.toRat? = some value ∧
      (precision.round x).toRat? = some value ∧ (Value.number y).display precision = .ok text := by
  cases x with
  | nan | infinite => cases hfinite
  | finite negative units h =>
    obtain ⟨units', h', hround, hsettled⟩ := Binary64.exists_settled haccepted negative h
    obtain ⟨text, negative', hdisplay, hcalculate, hsigned, hagain⟩ :=
      Binary64.calculate_settled functions haccepted negative hsettled
    refine ⟨text, .finite negative' units' h', _, ?_, hcalculate, rfl, ?_, hagain⟩
    · rw [display, Binary64.display_of_round haccepted hround hsettled, hdisplay]
    · rw [hround, Binary64.toRat?, hsigned]

/-- The nearest binary number is below -2.675 in magnitude, so the half is not rounded up. -/
theorem Value.calculate_display_half :
    let x := Decimal.toBinary64 true ⟨2675, -3⟩
    let precision := Precision.places 2
    x.isFinite = true ∧ precision.Accepted ∧ (Value.number x).display precision = .ok "-2.67" ∧
      ∃ y value, calculate .builtins "-2.67" = .ok (some (.number y)) ∧ y.toRat? = some value ∧
        (precision.round x).toRat? = some value ∧
        (Value.number y).display precision = .ok "-2.67" := by
  intro x precision
  have hfinite : x.isFinite = true := by decide +kernel
  have haccepted : precision.Accepted := ⟨by decide, by decide⟩
  have htext : (Value.number x).display precision = .ok "-2.67" :=
    Reader.eq_ok_of_toOption (by decide +kernel)
  obtain ⟨text, y, value, hdisplay, hcalculate, hy, hx, hagain⟩ :=
    Value.calculate_display .builtins hfinite haccepted
  obtain rfl : text = "-2.67" := by
    rw [htext] at hdisplay
    exact (Except.ok.inj hdisplay).symm
  exact ⟨hfinite, haccepted, htext, y, value, hcalculate, hy, hx, hagain⟩

example : ((Value.number (Decimal.toBinary64 true ⟨1, -9⟩)).display (.places 4)).toOption =
    some "0" := by
  decide +kernel

end Calculator
