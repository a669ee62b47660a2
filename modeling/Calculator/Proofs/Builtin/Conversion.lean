import Calculator.Builtin
import Calculator.Proofs.Evaluation.Reduction
import Calculator.Proofs.Numeral.PlaceValue

/-!
# Conversion between bases

In a base a value stands for one integer (`Denotes`), and conversion depends on nothing else of the
value. The text that is the result in a base other than ten stands for the same integer there, so a
second conversion gives what a single one would have given (`base_base`).
-/

namespace Calculator.Conversion

/-! ## The integer that a value stands for -/

def noDecimals : Option Nat → List Char
  | none => []
  | some zeros => '.' :: List.replicate zeros '0'

/-- A value stands for an integer in a base. The digits of a number are its decimal ones. -/
inductive Denotes (base : Base) : Value → Int → Prop
  | number {x : Binary64} {m n : Int} (whole : x.toInt? = some m)
      (spells : Numeral.Spells base (toString m).toList n) : Denotes base (.number x) n
  | text {cs : List Char} {n : Int} (point : Option Nat) (spells : Numeral.Spells base cs n) :
      Denotes base (.text (String.ofList (cs ++ noDecimals point))) n

theorem takeWhile_noDecimals {cs : List Char} (h : '.' ∉ cs) (point : Option Nat) :
    (cs ++ noDecimals point).takeWhile (· != '.') = cs ∧
      (cs ++ noDecimals point).dropWhile (· != '.') = noDecimals point := by
  have hrun := Text.all_ne_of_notMem h
  have hstop : (noDecimals point).head?.any (· != '.') = false := by
    cases point <;> rfl
  exact ⟨Text.takeWhile_append_of_stop hrun hstop, Text.dropWhile_append_of_stop hrun hstop⟩

theorem digitsOf_noDecimals {cs : List Char} (h : '.' ∉ cs) (point : Option Nat) :
    digitsOf (.text (String.ofList (cs ++ noDecimals point))) = .ok (String.ofList cs) := by
  obtain ⟨htake, hdrop⟩ := takeWhile_noDecimals h point
  have hzeros : ((noDecimals point).drop 1).all (· == '0') = true := by
    cases point <;> simp [noDecimals]
  simp only [digitsOf, String.toList_ofList, htake, hdrop]
  rw [if_pos hzeros]

theorem digitsOf_ofList {cs : List Char} (h : '.' ∉ cs) :
    digitsOf (.text (String.ofList cs)) = .ok (String.ofList cs) := by
  have hdigits := digitsOf_noDecimals h none
  rwa [noDecimals, List.append_nil] at hdigits

theorem exists_noDecimals {text digits : String} (h : digitsOf (.text text) = .ok digits) :
    ∃ point, text = String.ofList (digits.toList ++ noDecimals point) := by
  simp only [digitsOf] at h
  split at h
  · next hzeros =>
    cases h
    rw [String.toList_ofList]
    have hsplit : text.toList.takeWhile (· != '.') ++ text.toList.dropWhile (· != '.') =
        text.toList := List.takeWhile_append_dropWhile
    have hhead := Text.head?_dropWhile_any (· != '.') text.toList
    cases hrest : text.toList.dropWhile (· != '.') with
    | nil =>
      rw [hrest] at hsplit
      exact ⟨none, by rw [noDecimals, hsplit, String.ofList_toList]⟩
    | cons c rest =>
      rw [hrest] at hsplit hhead hzeros
      obtain rfl : c = '.' := by simpa using hhead
      have hrest : rest = List.replicate rest.length '0' :=
        List.eq_replicate_iff.mpr ⟨rfl, by simpa using hzeros⟩
      refine ⟨some rest.length, ?_⟩
      rw [noDecimals, ← hrest, hsplit, String.ofList_toList]
  · cases h

theorem denotes_iff {base : Base} {value : Value} {n : Int} :
    Denotes base value n ↔
      ∃ digits, digitsOf value = .ok digits ∧ Numeral.Spells base digits.toList n := by
  constructor
  · intro h
    cases h with
    | number hwhole hspells => exact ⟨_, by rw [digitsOf, hwhole], hspells⟩
    | text point hspells =>
      exact ⟨_, digitsOf_noDecimals hspells.point_notMem point, by rwa [String.toList_ofList]⟩
  · rintro ⟨digits, hdigits, hspells⟩
    cases value with
    | number x =>
      rw [digitsOf] at hdigits
      split at hdigits
      · next m hwhole =>
        cases hdigits
        exact .number hwhole hspells
      · cases hdigits
    | text text =>
      obtain ⟨point, rfl⟩ := exists_noDecimals hdigits
      exact .text point hspells

/-! ## Results -/

/-- What an integer is expressed as in a base: a number in base ten, if there is one so large, and a
text in any other. -/
inductive Expresses (target : Base) (n : Int) : Value → Prop
  | number (ten : target = .ten) (finite : (Binary64.ofInt n).isFinite = true) :
      Expresses target n (.number (.ofInt n))
  | text (other : target ≠ .ten) : Expresses target n (.text (fromDecimal n target))

theorem express_eq_ok {digits : String} {n : Int} {target : Base} {result : Value} :
    express digits n target = .ok result ↔ Expresses target n result := by
  unfold express
  constructor
  · intro h
    split at h
    · next hten =>
      split at h
      · next hfinite =>
        cases h
        exact .number hten hfinite
      · cases h
    · next hother =>
      cases h
      exact .text hother
  · intro h
    cases h with
    | number hten hfinite => rw [if_pos hten, if_pos hfinite]
    | text hother => rw [if_neg hother]

theorem express_eq_error {digits : String} {n : Int} {target : Base} {error : EvalError}
    (h : express digits n target = .error error) :
    target = .ten ∧ (Binary64.ofInt n).isFinite = false ∧ error = .tooLarge digits := by
  unfold express at h
  split at h
  · next hten =>
    split at h
    · cases h
    · next hinfinite =>
      cases h
      exact ⟨hten, Bool.eq_false_iff.mpr hinfinite, rfl⟩
  · cases h

theorem denotes_fromDecimal (base : Base) (n : Int) :
    Denotes base (.text (fromDecimal n base)) n := by
  have h := Denotes.text none (Numeral.spells_write base n)
  rwa [noDecimals, List.append_nil] at h

theorem Expresses.eq_text {target : Base} {n : Int} {result : Value}
    (h : Expresses target n result) (hother : target ≠ .ten) :
    result = .text (fromDecimal n target) := by
  cases h with
  | number hten => exact absurd hten hother
  | text => rfl

theorem Expresses.denotes {target : Base} {n : Int} {result : Value}
    (h : Expresses target n result) (hother : target ≠ .ten) : Denotes target result n := by
  rw [h.eq_text hother]
  exact denotes_fromDecimal target n

theorem toDecimal_eq_ok {digits : String} {base : Base} {n : Int} :
    toDecimal digits base = .ok n ↔ Numeral.Spells base digits.toList n := by
  rw [← Numeral.read?_eq_some, toDecimal]
  cases Numeral.read? base digits.toList <;> simp

theorem convert_of_digits {value source target : Value} {digits : String} {b c : Base} {n : Int}
    (hsource : baseOf source = .ok b) (htarget : baseOf target = .ok c)
    (hdigits : digitsOf value = .ok digits) (hspells : Numeral.Spells b digits.toList n) :
    convert value source target = express digits n c := by
  simp only [convert, hdigits, hsource, htarget, bind, Except.bind, toDecimal_eq_ok.mpr hspells]

/-- Of the value only the integer matters, but for the digits that an error shows. -/
theorem convert_of_denotes {value source target : Value} {b c : Base} {n : Int}
    (hsource : baseOf source = .ok b) (htarget : baseOf target = .ok c)
    (hvalue : Denotes b value n) :
    ∃ digits, convert value source target = express digits n c := by
  obtain ⟨digits, hdigits, hspells⟩ := denotes_iff.mp hvalue
  exact ⟨digits, convert_of_digits hsource htarget hdigits hspells⟩

theorem denotes_of_convert {value source target result : Value} {b : Base}
    (hsource : baseOf source = .ok b) (h : convert value source target = .ok result) :
    ∃ n, Denotes b value n := by
  simp only [convert, bind_eq_ok, hsource] at h
  obtain ⟨digits, hdigits, _, ⟨⟩, _, _, n, hn, _⟩ := h
  exact ⟨n, denotes_iff.mpr ⟨digits, hdigits, toDecimal_eq_ok.mp hn⟩⟩

theorem convert_eq_ok {value source target result : Value} {b c : Base} {n : Int}
    (hsource : baseOf source = .ok b) (htarget : baseOf target = .ok c)
    (hvalue : Denotes b value n) :
    convert value source target = .ok result ↔ Expresses c n result := by
  obtain ⟨digits, hconvert⟩ := convert_of_denotes hsource htarget hvalue
  rw [hconvert, express_eq_ok]

theorem convert_eq_error {value source target : Value} {b c : Base} {n : Int} {error : EvalError}
    (hsource : baseOf source = .ok b) (htarget : baseOf target = .ok c)
    (hvalue : Denotes b value n) (h : convert value source target = .error error) :
    c = .ten ∧ (Binary64.ofInt n).isFinite = false ∧ ∃ digits, error = .tooLarge digits := by
  obtain ⟨digits, hconvert⟩ := convert_of_denotes hsource htarget hvalue
  rw [hconvert] at h
  obtain ⟨hten, hlarge, herror⟩ := express_eq_error h
  exact ⟨hten, hlarge, digits, herror⟩

theorem convert_congr {value value' source source' target result : Value} {b b' : Base} {n : Int}
    (hsource : baseOf source = .ok b) (hvalue : Denotes b value n)
    (hsource' : baseOf source' = .ok b') (hvalue' : Denotes b' value' n) :
    convert value source target = .ok result ↔ convert value' source' target = .ok result := by
  cases htarget : baseOf target with
  | ok c =>
    rw [convert_eq_ok hsource htarget hvalue, convert_eq_ok hsource' htarget hvalue']
  | error => simp [convert, bind_eq_ok, htarget]

/-! ## Spellings of an integer -/

structure Spelling where
  negative : Bool
  zeros : Nat
  digits : List Char
  point : Option Nat
  digits_ne_nil : digits ≠ []
  all_digits : ∀ c ∈ digits, c.toUpper ∈ Numeral.alphabet

namespace Spelling

def body (s : Spelling) : List Char :=
  List.replicate s.zeros '0' ++ s.digits

def numeral (s : Spelling) : List Char :=
  if s.negative then '-' :: s.body else s.body

def text (s : Spelling) : String :=
  String.ofList (s.numeral ++ noDecimals s.point)

/-- Two spellings differ in nothing but zeros in front, the case of letters and the point. -/
def Alike (s t : Spelling) : Prop :=
  s.negative = t.negative ∧ s.digits.map Char.toUpper = t.digits.map Char.toUpper

theorem notMem_body (s : Spelling) {c : Char} (hc : c.toUpper ∉ Numeral.alphabet) :
    c ∉ s.body := by
  rw [body, List.mem_append, not_or]
  constructor
  · intro hmem
    rw [List.eq_of_mem_replicate hmem] at hc
    exact hc (by decide)
  · exact fun hmem => hc (s.all_digits c hmem)

theorem point_notMem_numeral (s : Spelling) : '.' ∉ s.numeral := by
  have hbody := s.notMem_body Numeral.point_notMem_alphabet
  cases hnegative : s.negative <;> simp [numeral, hnegative, hbody]

theorem read?_numeral (base : Base) (s : Spelling) : Numeral.read? base s.numeral =
    (Numeral.readNat? base s.digits).map fun n : Nat => if s.negative then -(n : Int) else n := by
  rw [← Numeral.readNat?_zeros base s.zeros s.digits_ne_nil, ← body]
  cases hnegative : s.negative with
  | true => simp [numeral, hnegative, Numeral.read?_minus]
  | false =>
    have hunsigned : ∀ body, s.body ≠ '-' :: body := fun body heq =>
      s.notMem_body Numeral.minus_notMem_alphabet (heq ▸ List.mem_cons_self)
    simp [numeral, hnegative, Numeral.read?_unsigned base hunsigned]

theorem denotes_text {s : Spelling} {base : Base} {n : Int} :
    Denotes base (.text s.text) n ↔ Numeral.read? base s.numeral = some n := by
  rw [text, denotes_iff, digitsOf_noDecimals s.point_notMem_numeral, Numeral.read?_eq_some]
  constructor
  · rintro ⟨_, ⟨⟩, hspells⟩
    rwa [String.toList_ofList] at hspells
  · intro hspells
    exact ⟨_, rfl, by rwa [String.toList_ofList]⟩

theorem Alike.denotes {s t : Spelling} (h : s.Alike t) {base : Base} {n : Int} :
    Denotes base (.text s.text) n ↔ Denotes base (.text t.text) n := by
  obtain ⟨hnegative, hletters⟩ := h
  rw [denotes_text, denotes_text, read?_numeral, read?_numeral, hnegative,
    Numeral.readNat?_congr base (Numeral.map_digit?_of_toUpper hletters)]

end Spelling

/-! ## One conversion after another -/

/-- The value has been converted from the base `b` to `c`, with a result that can be converted to
the base `e` instead of the value. -/
structure Composes (value source target final result : Value) (b c e : Base) (n : Int) : Prop where
  denotes : Denotes b value n
  result_eq : result = .text (fromDecimal n c)
  /-- No digit is lost, however long the text is. -/
  result_denotes : Denotes c result n
  /-- Both ways lead to the same, and so one of them fails if and only if the other does. -/
  compose : ∀ last, Builtin.base.apply [result, target, final] = .ok last ↔
    Builtin.base.apply [value, source, final] = .ok last
  /-- Nothing is lost either on the way to another base than ten. -/
  lossless : e ≠ .ten → ∃ last, Builtin.base.apply [value, source, final] = .ok last ∧
    Denotes e last n
  too_large : ∀ error, Builtin.base.apply [result, target, final] = .error error ∨
      Builtin.base.apply [value, source, final] = .error error →
    e = .ten ∧ (Binary64.ofInt n).isFinite = false ∧ ∃ digits, error = .tooLarge digits
  /-- Any other value that stands for the integer, in a base of its own, is converted alike. -/
  only_integer : ∀ {value' source' : Value} {b' : Base}, baseOf source' = .ok b' →
    Denotes b' value' n → ∀ target' last, Builtin.base.apply [value', source', target'] = .ok last ↔
      Builtin.base.apply [value, source, target'] = .ok last
  spelling : ∀ s t : Spelling, s.Alike t → value = .text s.text → ∀ target' last,
    Builtin.base.apply [.text t.text, source, target'] = .ok last ↔
      Builtin.base.apply [value, source, target'] = .ok last

/-- A conversion to a base other than ten can be made on the way to any base. -/
theorem base_base {value source target final result : Value} {b c e : Base}
    (hsource : baseOf source = .ok b) (htarget : baseOf target = .ok c)
    (hfinal : baseOf final = .ok e) (hten : c ≠ .ten)
    (h : Builtin.base.apply [value, source, target] = .ok result) :
    ∃ n, Composes value source target final result b c e n := by
  change convert value source target = .ok result at h
  obtain ⟨n, hvalue⟩ := denotes_of_convert hsource h
  have hexpresses : Expresses c n result := (convert_eq_ok hsource htarget hvalue).mp h
  have hresult : Denotes c result n := hexpresses.denotes hten
  refine ⟨n, ?_⟩
  constructor
  case denotes => exact hvalue
  case result_eq => exact hexpresses.eq_text hten
  case result_denotes => exact hresult
  case compose => exact fun last => convert_congr htarget hresult hsource hvalue
  case lossless =>
    intro hother
    have hlast : Expresses e n (.text (fromDecimal n e)) := .text hother
    exact ⟨_, (convert_eq_ok hsource hfinal hvalue).mpr hlast, hlast.denotes hother⟩
  case too_large =>
    rintro error (hfails | hfails)
    · exact convert_eq_error htarget hfinal hresult hfails
    · exact convert_eq_error hsource hfinal hvalue hfails
  case only_integer =>
    intro value' source' b' hsource' hvalue' target' last
    exact convert_congr hsource' hvalue' hsource hvalue
  case spelling =>
    rintro s t halike rfl target' last
    exact convert_congr hsource (halike.denotes.mp hvalue) hsource hvalue

theorem base_base_letters :
    ∃ b c e : Base, baseOf (.text "16") = .ok b ∧ baseOf (.text "2.0") = .ok c ∧
      baseOf (.text "1e1") = .ok e ∧ c ≠ .ten ∧
        Builtin.base.apply [.text "-fF.00", .text "16", .text "2.0"] =
          .ok (.text "-11111111") ∧
        ∃ n, Composes (.text "-fF.00") (.text "16") (.text "2.0") (.text "1e1")
          (.text "-11111111") b c e n := by
  have hsource : baseOf (.text "16") = .ok ⟨16, by decide, by decide⟩ := by decide +kernel
  have htarget : baseOf (.text "2.0") = .ok ⟨2, by decide, by decide⟩ := by decide +kernel
  have hfinal : baseOf (.text "1e1") = .ok .ten := by decide +kernel
  have h : Builtin.base.apply [.text "-fF.00", .text "16", .text "2.0"] =
      .ok (.text "-11111111") := by decide +kernel
  have hten : (⟨2, by decide, by decide⟩ : Base) ≠ .ten := by decide
  exact ⟨_, _, _, hsource, htarget, hfinal, hten, h,
    base_base hsource htarget hfinal hten h⟩

end Calculator.Conversion
