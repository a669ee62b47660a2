import Calculator.Proofs.Decimal.Literal
import Calculator.Proofs.Text.LetterCase
import Calculator.Proofs.Token.Stream

/-!
# The case of letters in a source

`foldCase` lowers the ASCII letters outside of the texts of a source. Sources that are folded alike
differ in nothing but the case of such letters, and these are letters of names and the marks of
exponents. So both spell the same lexemes, except that a number can be spelled with another mark
(`SpellsAll.recased`).
-/

namespace Calculator

/-- The source with small ASCII letters outside of texts. A text reaches from one quotation mark to
the next; `inText` tells whether the front stands in one. -/
def foldCase (inText : Bool) : List Char → List Char
  | [] => []
  | c :: cs => (if inText then c else c.toLower) :: foldCase (inText != (c == '"')) cs

/-- A number without its spelling. Its value is all that the reader looks at. -/
def Lexeme.unspelled : Lexeme → Lexeme
  | .number _ value => .number "" value
  | l => l

open Text

/-! ## Splitting what is folded -/

theorem foldCase_nil_iff {inText : Bool} {cs : List Char} : foldCase inText cs = [] ↔ cs = [] := by
  cases cs <;> simp [foldCase]

theorem map_toLower_head? {cs ds : List Char} (h : foldCase false ds = foldCase false cs) :
    ds.head?.map Char.toLower = cs.head?.map Char.toLower := by
  cases cs <;> cases ds <;> simp_all [foldCase]

theorem exists_of_foldCase_append {cs rest ds : List Char} (hcs : '"' ∉ cs)
    (h : foldCase false ds = foldCase false (cs ++ rest)) :
    ∃ cs' rest', ds = cs' ++ rest' ∧ cs'.map Char.toLower = cs.map Char.toLower ∧
      foldCase false rest' = foldCase false rest := by
  induction cs generalizing ds with
  | nil => exact ⟨[], ds, rfl, rfl, h⟩
  | cons c cs ih =>
    cases ds with
    | nil => cases h
    | cons d ds =>
      have hc : (c == '"') = false := beq_false_of_ne fun hq => hcs (hq ▸ List.mem_cons_self)
      simp only [List.cons_append, foldCase, Bool.false_eq_true, if_false, List.cons.injEq] at h
      obtain ⟨hdc, hrest⟩ := h
      have hd : (d == '"') = false := by rw [← beq_quote_toLower, hdc, beq_quote_toLower, hc]
      rw [hc, hd] at hrest
      obtain ⟨cs', rest', rfl, hmap, hfold⟩ := ih (fun hq => hcs (List.mem_cons_of_mem _ hq)) hrest
      exact ⟨d :: cs', rest', rfl, by rw [List.map_cons, List.map_cons, hdc, hmap], hfold⟩

theorem exists_of_foldCase_text {content rest ds : List Char} (hcontent : '"' ∉ content)
    (h : foldCase true ds = foldCase true (content ++ '"' :: rest)) :
    ∃ rest', ds = content ++ '"' :: rest' ∧ foldCase false rest' = foldCase false rest := by
  induction content generalizing ds with
  | nil =>
    cases ds with
    | nil => cases h
    | cons d ds =>
      simp only [List.nil_append, foldCase, if_true, List.cons.injEq] at h
      obtain ⟨rfl, hrest⟩ := h
      exact ⟨ds, rfl, hrest⟩
  | cons c content ih =>
    cases ds with
    | nil => cases h
    | cons d ds =>
      have hc : (c == '"') = false := beq_false_of_ne fun hq => hcontent (hq ▸ List.mem_cons_self)
      simp only [List.cons_append, foldCase, if_true, List.cons.injEq] at h
      obtain ⟨rfl, hrest⟩ := h
      rw [hc] at hrest
      obtain ⟨rest', rfl, hfold⟩ := ih (fun hq => hcontent (List.mem_cons_of_mem _ hq)) hrest
      exact ⟨rest', rfl, hfold⟩

/-! ## Classes -/

section

variable {p : Char → Bool} (hp : ∀ c : Char, p c.toLower = p c) {cs ds : List Char}

include hp

theorem apply_of_toLower {c d : Char} (h : d.toLower = c.toLower) : p d = p c := by
  rw [← hp d, h, hp c]

theorem all_of_map_toLower (h : ds.map Char.toLower = cs.map Char.toLower) :
    ds.all p = cs.all p := by
  have hcomp : p ∘ Char.toLower = p := funext hp
  have := congrArg (List.all · p) h
  simpa only [List.all_map, hcomp] using this

theorem head?_any_recased (h : foldCase false ds = foldCase false cs) :
    ds.head?.any p = cs.head?.any p := by
  have := congrArg (Option.any p) (map_toLower_head? h)
  simpa only [Option.any_map, hp] using this

theorem head?_all_recased (h : foldCase false ds = foldCase false cs) :
    ds.head?.all p = cs.head?.all p := by
  have := congrArg (Option.all p) (map_toLower_head? h)
  simpa only [Option.all_map, hp] using this

end

theorem isDigit_toLower (c : Char) : Decimal.isDigit c.toLower = Decimal.isDigit c :=
  congrArg Traits.digit (traits_toLower c)

theorem toLower_of_isDigit {c : Char} (h : Decimal.isDigit c = true) : c.toLower = c := by
  have hle : c ≤ '9' := of_decide_eq_true (Bool.and_eq_true_iff.mp h).2
  have hlt : c.toNat < 0x41 := toNat_lt_of_le hle (by decide)
  exact toLower_of_not_capital fun hcapital => Nat.not_le_of_lt hlt hcapital.1

theorem map_toLower_of_digits {cs : List Char} (h : cs.all Decimal.isDigit = true) :
    cs.map Char.toLower = cs :=
  (List.map_congr_left fun c hc => toLower_of_isDigit (List.all_eq_true.mp h c hc)).trans
    (List.map_id cs)

namespace Cursor

theorem isNameStart_toLower (c : Char) : isNameStart c.toLower = isNameStart c :=
  congrArg Traits.start (traits_toLower c)

theorem isNamePart_toLower (c : Char) : isNamePart c.toLower = isNamePart c :=
  congrArg Traits.part (traits_toLower c)

theorem mayFollowNumber_toLower (c : Char) : mayFollowNumber c.toLower = mayFollowNumber c :=
  congrArg Traits.follower (traits_toLower c)

theorem isExponentMark_toLower (c : Char) : isExponentMark c.toLower = isExponentMark c :=
  congrArg Traits.mark (traits_toLower c)

theorem symbol?_toLower (c : Char) : symbol? c.toLower = symbol? c :=
  congrArg Traits.symbol (traits_toLower c)

theorem isSign_toLower (c : Char) : isSign c.toLower = isSign c :=
  congrArg₂ (· || ·) (congrArg Traits.plus (traits_toLower c))
    (congrArg Traits.minus (traits_toLower c))

theorem isDigitOrPoint_toLower (c : Char) : isDigitOrPoint c.toLower = isDigitOrPoint c :=
  congrArg₂ (· || ·) (isDigit_toLower c) (congrArg Traits.point (traits_toLower c))

end Cursor

/-! ## Numbers -/

namespace Decimal

theorem takeWhile_map_toLower (cs : List Char) :
    (cs.map Char.toLower).takeWhile isDigit = cs.takeWhile isDigit := by
  have hcomp : isDigit ∘ Char.toLower = isDigit := funext isDigit_toLower
  rw [List.takeWhile_map, hcomp, map_toLower_of_digits List.all_takeWhile]

theorem dropWhile_map_toLower (cs : List Char) :
    (cs.map Char.toLower).dropWhile isDigit = (cs.dropWhile isDigit).map Char.toLower := by
  have hcomp : isDigit ∘ Char.toLower = isDigit := funext isDigit_toLower
  rw [List.dropWhile_map, hcomp]

theorem splitFraction_map_toLower (cs : List Char) :
    splitFraction (cs.map Char.toLower) =
      ((splitFraction cs).1, (splitFraction cs).2.map Char.toLower) := by
  cases cs with
  | nil => rfl
  | cons c cs =>
    have hpoint : (c.toLower == '.') = (c == '.') := congrArg Traits.point (traits_toLower c)
    by_cases hc : c = '.'
    · subst hc
      have hsame : '.'.toLower = '.' := by decide
      simp [splitFraction, hsame, takeWhile_map_toLower, dropWhile_map_toLower]
    · have hc' : c.toLower ≠ '.' := by simpa [hc] using hpoint
      simp [splitFraction, hc, hc']

theorem readDigits?_map_toLower (cs : List Char) :
    readDigits? (cs.map Char.toLower) = readDigits? cs := by
  by_cases h : cs.all isDigit = true
  · rw [map_toLower_of_digits h]
  · -- What is no digit does not become one.
    have h' : (cs.map Char.toLower).all isDigit = false := by
      rw [List.all_map, show isDigit ∘ Char.toLower = isDigit from funext isDigit_toLower]
      exact Bool.eq_false_iff.mpr h
    simp [readDigits?, h, h']

theorem readSigned?_map_toLower (cs : List Char) :
    readSigned? (cs.map Char.toLower) = readSigned? cs := by
  cases cs with
  | nil => rfl
  | cons c cs =>
    have hminus : (c.toLower == '-') = (c == '-') := congrArg Traits.minus (traits_toLower c)
    have hplus : (c.toLower == '+') = (c == '+') := congrArg Traits.plus (traits_toLower c)
    have hrest := readDigits?_map_toLower cs
    have hdigits := readDigits?_map_toLower (c :: cs)
    rw [List.map_cons] at hdigits ⊢
    unfold readSigned?
    split <;> split <;> simp_all

theorem readExponent?_map_toLower (cs : List Char) :
    readExponent? (cs.map Char.toLower) = readExponent? cs := by
  cases cs with
  | nil => rfl
  | cons c cs =>
    have hmark : (c.toLower = 'e' ∨ c.toLower = 'E') ↔ (c = 'e' ∨ c = 'E') := by
      simpa [Cursor.isExponentMark] using Bool.eq_iff_iff.mp (Cursor.isExponentMark_toLower c)
    simp only [List.map_cons, readExponent?, hmark, readSigned?_map_toLower]

theorem read?_map_toLower (cs : List Char) : read? (cs.map Char.toLower) = read? cs := by
  simp only [read?, takeWhile_map_toLower, dropWhile_map_toLower, splitFraction_map_toLower,
    readExponent?_map_toLower]

end Decimal

namespace Cursor

theorem Exponent.recased {cs ds : List Char} (hexponent : Exponent cs)
    (h : ds.map Char.toLower = cs.map Char.toLower) : Exponent ds := by
  cases hexponent with
  | none => exact List.map_eq_nil_iff.mp h ▸ .none
  | @unsigned mark digit digits hmark hdigit hdigits =>
    obtain ⟨mark', ds, rfl, hm, h⟩ := List.map_eq_cons_iff.mp h
    obtain ⟨digit', ds, rfl, hd, h⟩ := List.map_eq_cons_iff.mp h
    exact .unsigned (apply_of_toLower isExponentMark_toLower hm ▸ hmark)
      (apply_of_toLower isDigit_toLower hd ▸ hdigit)
      (all_of_map_toLower isDigit_toLower h ▸ hdigits)
  | @signed mark sign digit digits hmark hsign hdigit hdigits =>
    obtain ⟨mark', ds, rfl, hm, h⟩ := List.map_eq_cons_iff.mp h
    obtain ⟨sign', ds, rfl, hs, h⟩ := List.map_eq_cons_iff.mp h
    obtain ⟨digit', ds, rfl, hd, h⟩ := List.map_eq_cons_iff.mp h
    exact .signed (apply_of_toLower isExponentMark_toLower hm ▸ hmark)
      (apply_of_toLower isSign_toLower hs ▸ hsign)
      (apply_of_toLower isDigit_toLower hd ▸ hdigit)
      (all_of_map_toLower isDigit_toLower h ▸ hdigits)

theorem Numeric.recased {cs ds : List Char} (hnumeric : Numeric cs)
    (h : ds.map Char.toLower = cs.map Char.toLower) : Numeric ds := by
  obtain @⟨digit, mantissa, exponent, hdigit, hmantissa, hexponent⟩ := hnumeric
  rw [List.map_append, List.map_cons] at h
  obtain ⟨ds, exponent', rfl, h, he⟩ := List.map_eq_append_iff.mp h
  obtain ⟨digit', mantissa', rfl, hd, hm⟩ := List.map_eq_cons_iff.mp h
  exact .intro (apply_of_toLower isDigit_toLower hd ▸ hdigit)
    (all_of_map_toLower isDigitOrPoint_toLower hm ▸ hmantissa) (hexponent.recased he)

/-! ## Lexemes -/

theorem mayPrecede_recased {l l' : Lexeme} {rest rest' : List Char}
    (hl : l'.unspelled = l.unspelled) (hrest : foldCase false rest' = foldCase false rest) :
    l'.mayPrecede rest' = l.mayPrecede rest := by
  have hnumber := head?_all_recased mayFollowNumber_toLower hrest
  have hname := head?_any_recased isNamePart_toLower hrest
  cases l <;> cases l' <;> simp_all [Lexeme.unspelled, Lexeme.mayPrecede]

theorem Spells.exists_recased {cs rest ds : List Char} {l : Lexeme} (hspells : Spells cs l)
    (h : foldCase false ds = foldCase false (cs ++ rest)) :
    ∃ cs' rest' l', ds = cs' ++ rest' ∧ Spells cs' l' ∧ l'.unspelled = l.unspelled ∧
      foldCase false rest' = foldCase false rest := by
  cases hspells with
  | @number _ decimal hnumeric hread =>
    have hquote : '"' ∉ cs := hnumeric.notMem rfl rfl rfl
    obtain ⟨cs', rest', rfl, hmap, hrest⟩ := exists_of_foldCase_append hquote h
    rw [← Decimal.read?_map_toLower, ← hmap, Decimal.read?_map_toLower] at hread
    exact ⟨cs', rest', _, rfl, .number (hnumeric.recased hmap) hread, rfl, hrest⟩
  | @text content hcontent =>
    have hquote : '"' ∉ content := notMem_of_all hcontent rfl
    rw [List.cons_append, List.append_assoc] at h
    cases ds with
    | nil => cases h
    | cons d ds =>
      simp only [foldCase, Bool.false_eq_true, if_false, List.cons.injEq] at h
      obtain ⟨hopen, h⟩ := h
      have hd : d = '"' := by
        have := beq_quote_toLower d
        rw [hopen] at this
        simpa using this.symm
      subst hd
      obtain ⟨rest', rfl, hrest⟩ := exists_of_foldCase_text hquote h
      refine ⟨'"' :: (content ++ ['"']), rest', _, ?_, .text hcontent, rfl, hrest⟩
      simp
  | @name c cs hc hcs =>
    have hquote : '"' ∉ c :: cs :=
      notMem_cons hc (by decide +kernel) (notMem_of_all hcs (by decide +kernel))
    obtain ⟨cs', rest', rfl, hmap, hrest⟩ := exists_of_foldCase_append hquote h
    have hlower : lower (c :: cs) = lower cs' := by
      rw [← lower_map_toLower, ← hmap, lower_map_toLower]
    obtain ⟨c', cs', rfl, hc', hcs'⟩ := List.map_eq_cons_iff.mp hmap
    refine ⟨c' :: cs', rest', .name (String.ofList (lower (c' :: cs'))), rfl, ?_, ?_, hrest⟩
    · exact .name (apply_of_toLower isNameStart_toLower hc' ▸ hc)
        (all_of_map_toLower isNamePart_toLower hcs' ▸ hcs)
    · rw [hlower]
  | @symbol c _ hsymbol =>
    have hquote : '"' ∉ [c] := by simpa using (symbol?_classes hsymbol).2.2.1.symm
    obtain ⟨cs', rest', rfl, hmap, hrest⟩ := exists_of_foldCase_append hquote h
    obtain ⟨c', cs', rfl, hc', hcs'⟩ := List.map_eq_cons_iff.mp hmap
    obtain rfl := List.map_eq_nil_iff.mp hcs'
    have hsymbol' : symbol? c' = some l := by
      rw [← symbol?_toLower, hc', symbol?_toLower, hsymbol]
    exact ⟨[c'], rest', l, rfl, .symbol hsymbol', rfl, hrest⟩

theorem SpellsAll.recased {cs ds : List Char} {ls : List Lexeme} (hspells : SpellsAll cs ls)
    (h : foldCase false ds = foldCase false cs) :
    ∃ ms, SpellsAll ds ms ∧ ms.map Lexeme.unspelled = ls.map Lexeme.unspelled := by
  induction hspells generalizing ds with
  | @nil gap hgap =>
    have hquote : '"' ∉ gap := notMem_of_all hgap (by decide)
    rw [← List.append_nil gap] at h
    obtain ⟨gap', rest', rfl, hmap, hrest⟩ := exists_of_foldCase_append hquote h
    obtain rfl := foldCase_nil_iff.mp hrest
    rw [List.append_nil]
    exact ⟨[], .nil (all_of_map_toLower isBlank_toLower hmap ▸ hgap), rfl⟩
  | @cons gap cs rest l ls hgap hspells hends _ ih =>
    have hquote : '"' ∉ gap := notMem_of_all hgap (by decide)
    obtain ⟨gap', ds, rfl, hmap, hds⟩ := exists_of_foldCase_append hquote h
    obtain ⟨cs', rest', l', rfl, hspells', hl, hrest⟩ := hspells.exists_recased hds
    obtain ⟨ms, hms, hls⟩ := ih hrest
    refine ⟨l' :: ms, .cons ?_ hspells' ?_ hms, ?_⟩
    · exact all_of_map_toLower isBlank_toLower hmap ▸ hgap
    · rw [mayPrecede_recased hl hrest, hends]
    · rw [List.map_cons, List.map_cons, hl, hls]

end Cursor

end Calculator
