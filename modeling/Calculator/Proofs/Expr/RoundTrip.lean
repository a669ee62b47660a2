import Calculator.Proofs.Decimal.Written
import Calculator.Proofs.Expr.Printed
import Calculator.Proofs.Text.Lowercase

/-!
# Reading what is printed

A tree of finite numbers without sign, texts without quotation marks and names that the lexer takes
for themselves can be written as source text, with blanks anywhere between the lexemes, and reading
gives the tree again unless it is nested too deeply. In the other direction every tree that is read
is of this kind, except that a literal may be too large for a finite number (`read_source`).
-/

namespace Calculator

open Reader

/-- Neither negative nor not a number; not the negative zero either. -/
def Binary64.isUnsigned : Binary64 → Bool
  | .nan => false
  | .infinite negative | .finite negative _ _ => !negative

def Tokens.LexesTo (source : String) (ls : List Lexeme) : Prop :=
  (ofSource source).lexemes = ls ∧ ∃ stop, (ofSource source).ending = .ok stop

namespace Expr

/-- A tree that can be written as source text. -/
abbrev Writable : Expr → Prop :=
  Built (fun value => value.isFinite = true ∧ value.isUnsigned = true)
    (fun name => Tokens.LexesTo name [.name name])

/-- What is known of a tree that has been read. -/
abbrev Genuine : Expr → Prop :=
  Built (fun value => value.isUnsigned = true) (fun name => ∃ cs, Cursor.Spells cs (.name name))

/-- A tree as source text, with gaps of one's choice. -/
def source (gaps : Nat → List Char) (e : Expr) : String :=
  String.ofList (spaced gaps (e.printed .expression))

end Expr

/-! ## Spelling what is printed -/

theorem isBlank_name {cs : List Char} {name : String} (h : Cursor.Spells cs (.name name)) :
    ∀ c ∈ name.toList, Text.isBlank c = false := by
  cases h with
  | @name c cs hc hpart =>
    rw [String.toList_ofList]
    refine Text.isBlank_lower fun d hd => ?_
    rw [Bool.eq_false_iff]
    intro hblank
    have hd : Cursor.isNamePart d = true := by
      rcases List.mem_cons.mp hd with rfl | hd
      · exact Cursor.isNamePart_of_isNameStart hc
      · exact List.all_eq_true.mp hpart d hd
    rw [Cursor.isNamePart_of_isBlank hblank] at hd
    cases hd
  | symbol hsymbol => rcases Cursor.symbol?_cases hsymbol with ⟨_, h⟩ | h | h | h <;> cases h

theorem eq_nil_of_isBlank {gap cs : List Char} (hgap : gap.all Text.isBlank = true)
    (hcs : ∀ c ∈ cs, Text.isBlank c = false) (hsub : gap ⊆ cs) : gap = [] := by
  cases gap with
  | nil => rfl
  | cons c gap =>
    rw [List.all_cons, hcs c (hsub List.mem_cons_self)] at hgap
    cases hgap

theorem Tokens.LexesTo.spells_name {name : String} (h : LexesTo name [.name name]) :
    Cursor.Spells name.toList (.name name) := by
  have hall : Cursor.SpellsAll name.toList [.name name] := Cursor.spellsAll_iff.mpr h
  generalize hname : name.toList = cs at hall
  cases hall with
  | @cons gap spelled _ _ _ hgap hspells _ hrest =>
    cases hrest with
    | @nil rest hrest =>
      have hblank := isBlank_name hspells
      rw [hname] at hblank
      have hgap := eq_nil_of_isBlank hgap hblank (List.subset_append_left ..)
      have hrest := eq_nil_of_isBlank hrest hblank (by simp)
      rw [hgap, hrest, List.nil_append, List.append_nil]
      exact hspells

theorem mem_separated {phrases : List (List Lexeme)} {l : Lexeme} (h : l ∈ separated phrases) :
    l = .comma ∨ ∃ ls ∈ phrases, l ∈ ls := by
  cases phrases with
  | nil => cases h
  | cons ls more =>
    rw [separated_cons] at h
    simp only [List.mem_append, List.mem_flatMap, List.mem_cons] at h
    rcases h with h | ⟨ms, hms, rfl | h⟩
    · exact .inr ⟨ls, by simp, h⟩
    · exact .inl rfl
    · exact .inr ⟨ms, by simp [hms], h⟩

namespace Expr.Built

variable {numbers : Binary64 → Prop} {names : String → Prop} {e : Expr}

theorem forall_printed {p : Lexeme → Prop} (hop : ∀ op, p (.operator op))
    (hopen : p .openParen) (hclose : p .closeParen) (hcomma : p .comma)
    (hnumber : ∀ value, numbers value → p (.number value.text value))
    (htext : ∀ content : String, content.toList.all (· != '"') = true → p (.text content))
    (hname : ∀ name, names name → p (.name name)) (h : e.Built numbers names) (phrase : Phrase) :
    ∀ l ∈ e.printed phrase, p l := by
  induction h generalizing phrase with
  | number h => exact List.forall_mem_singleton.mpr (hnumber _ h)
  | text h => exact List.forall_mem_singleton.mpr (htext _ h)
  | signed sign _ ih => exact List.forall_mem_cons.mpr ⟨hop _, ih .factor⟩
  | @binary left right op _ _ ihl ihr =>
    have hinner : ∀ l ∈ left.printed op.phrase ++ .operator op :: right.printed op.rightPhrase,
        p l :=
      List.forall_mem_append.mpr ⟨ihl _, List.forall_mem_cons.mpr ⟨hop op, ihr _⟩⟩
    rw [printed, inParens]
    split
    · exact hinner
    · exact List.forall_mem_cons.mpr ⟨hopen,
        List.forall_mem_append.mpr ⟨hinner, List.forall_mem_singleton.mpr hclose⟩⟩
  | @call name arguments h _ ih =>
    have harguments : ∀ l ∈ separated (printedAll arguments), p l := by
      intro l hl
      rcases mem_separated hl with rfl | ⟨ls, hls, hl⟩
      · exact hcomma
      · rw [printedAll_eq, List.mem_map] at hls
        obtain ⟨a, ha, rfl⟩ := hls
        exact ih a ha .expression l hl
    exact List.forall_mem_cons.mpr ⟨hname _ h, List.forall_mem_cons.mpr ⟨hopen,
      List.forall_mem_append.mpr ⟨harguments, List.forall_mem_singleton.mpr hclose⟩⟩⟩

end Expr.Built

theorem Expr.Writable.spells {e : Expr} (h : e.Writable) (phrase : Phrase) :
    ∀ l ∈ e.printed phrase, Cursor.Spells l.spelling l := by
  refine h.forall_printed ?_ (.symbol rfl) (.symbol rfl) (.symbol rfl) ?_ ?_ ?_ phrase
  · rintro (sign | scaling)
    · cases sign <;> exact .symbol rfl
    · cases scaling <;> exact .symbol rfl
  · rintro value ⟨hfinite, hunsigned⟩
    cases value with
    | nan | infinite => cases hfinite
    | finite negative units hrep =>
      cases negative with
      | true => cases hunsigned
      | false =>
        have hspells := Binary64.spells_text hrep
        rwa [← String.toList_ofList (l := Binary64.write _)] at hspells
  · intro content hcontent
    have := Cursor.Spells.text hcontent
    rwa [String.ofList_toList] at this
  · exact fun name hname => hname.spells_name

/-! ## Trees that are read -/

theorem isUnsigned_of_spells {cs : List Char} {literal : String} {value : Binary64}
    (h : Cursor.Spells cs (.number literal value)) : value.isUnsigned = true := by
  obtain ⟨decimal, -, -, -, rfl⟩ := h.of_number
  rw [Decimal.toBinary64_eq, Binary64.ofUnits]
  split <;> rfl

theorem all_ne_quote_of_spells {cs : List Char} {content : String}
    (h : Cursor.Spells cs (.text content)) : content.toList.all (· != '"') = true := by
  cases h with
  | text hcontent => rwa [String.toList_ofList]
  | symbol hsymbol => rcases Cursor.symbol?_cases hsymbol with ⟨_, h⟩ | h | h | h <;> cases h

theorem mem_separated_of_mem {phrases : List (List Lexeme)} {ls : List Lexeme} {l : Lexeme}
    (hls : ls ∈ phrases) (hl : l ∈ ls) : l ∈ separated phrases := by
  cases phrases with
  | nil => cases hls
  | cons ms more =>
    rw [separated_cons, List.mem_append, List.mem_flatMap]
    rcases List.mem_cons.mp hls with rfl | hls
    · exact .inl hl
    · exact .inr ⟨ls, hls, List.mem_cons_of_mem _ hl⟩

theorem Reader.Derives.genuine {phrase : Phrase} {ls : List Lexeme} {e : Expr}
    (h : Derives phrase ls e) (hls : ∀ l ∈ ls, ∃ cs, Cursor.Spells cs l) : e.Genuine := by
  induction h with
  | number =>
    obtain ⟨cs, hspells⟩ := hls _ List.mem_cons_self
    exact .number (isUnsigned_of_spells hspells)
  | text =>
    obtain ⟨cs, hspells⟩ := hls _ List.mem_cons_self
    exact .text (all_ne_quote_of_spells hspells)
  | signed sign _ ih => exact .signed sign (ih fun l hl => hls l (List.mem_cons_of_mem _ hl))
  | group _ ih => exact ih fun l hl => hls l (by simp [hl])
  | call name arguments _ ih =>
    refine .call (hls _ List.mem_cons_self) (List.forall_mem_map.mpr fun a ha => ?_)
    refine ih a ha fun l hl => hls l ?_
    have := mem_separated_of_mem (List.mem_map_of_mem (f := Prod.fst) ha) hl
    simp [this]
  | factor _ ih | term _ ih => exact ih hls
  | product scaling _ _ ihl ihr =>
    exact .binary _ (ihl fun l hl => hls l (by simp [hl])) (ihr fun l hl => hls l (by simp [hl]))
  | sum sign _ _ ihl ihr =>
    exact .binary _ (ihl fun l hl => hls l (by simp [hl])) (ihr fun l hl => hls l (by simp [hl]))

theorem Expr.genuine_of_read {limit : Option Nat} {source : String} {e : Expr}
    (h : Expr.read limit source = .ok (some e)) : e.Genuine := by
  obtain ⟨-, hd⟩ := derives_of_read h
  exact hd.genuine (List.forall_mem_map.mpr fun token ht => Tokens.spells_of_mem ht)

/-! ## There and back -/

theorem Expr.Writable.read {e : Expr} (h : e.Writable) (limit : Option Nat)
    {gaps : Nat → List Char} (hgaps : ∀ n, (gaps n).all Text.isBlank = true) :
    Expr.read limit (e.source gaps) =
      if tooDeepAt limit (e.nesting .expression) then .error (.grammatical .tooDeep)
      else .ok (some e) := by
  have hd := h.derives .expression
  obtain ⟨last, hwalk, -⟩ := derives_iff_walk.mp hd
  have hspells := spellsAll_spaced hgaps (h.spells .expression) hwalk
  rw [← String.toList_ofList (l := spaced gaps _)] at hspells
  exact read_of_derives limit hspells hd (h.reaches .expression)

/-- A tree that can be written is read again from its source text, whatever gaps that has, and every
tree that is read from any source has unsigned numbers, texts without quotation marks and no bare
node. -/
theorem Expr.read_source :
    (∀ limit gaps e, (∀ n, (gaps n).all Text.isBlank = true) → Writable e →
      Expr.read limit (e.source gaps) =
        if tooDeepAt limit (e.nesting .expression) then .error (.grammatical .tooDeep)
        else .ok (some e)) ∧
    ∀ limit source e, Expr.read limit source = .ok (some e) → Genuine e :=
  ⟨fun limit _ _ hgaps h => h.read limit hgaps, fun _ _ _ => genuine_of_read⟩

/-- A difference as the right operand of a product stands in parentheses. -/
theorem Expr.read_source_product :
    Writable (.binary (.number (.ofInt 2)) (.product .times)
      (.binary (.text "a") (.sum .minus) (.call "f" []))) ∧
    Expr.read (some nestingLimit) (source (fun n => List.replicate (n % 2) ' ')
      (.binary (.number (.ofInt 2)) (.product .times)
        (.binary (.text "a") (.sum .minus) (.call "f" [])))) =
      .ok (some (.binary (.number (.ofInt 2)) (.product .times)
        (.binary (.text "a") (.sum .minus) (.call "f" [])))) ∧
    Genuine (.binary (.number (.ofInt 2)) (.product .times)
      (.binary (.text "a") (.sum .minus) (.call "f" []))) := by
  have hgaps : ∀ n, (List.replicate (n % 2) ' ').all Text.isBlank = true := by
    intro n
    rcases Nat.mod_two_eq_zero_or_one n with h | h <;> rw [h] <;> decide
  have hname : Tokens.LexesTo "f" [.name "f"] :=
    ⟨by decide +kernel, 1, eq_ok_of_toOption (by decide +kernel)⟩
  have htree : Writable (.binary (.number (.ofInt 2)) (.product .times)
      (.binary (.text "a") (.sum .minus) (.call "f" []))) :=
    .binary _ (.number (by decide +kernel))
      (.binary _ (.text (by decide)) (.call hname (List.forall_mem_nil _)))
  have hread := read_source.1 (some nestingLimit) _ _ hgaps htree
  rw [if_neg (by decide)] at hread
  exact ⟨htree, hread, read_source.2 _ _ _ hread⟩

end Calculator
