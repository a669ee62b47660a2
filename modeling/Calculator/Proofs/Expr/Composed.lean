import Calculator.Proofs.Expr.Depth

/-!
# Sources as parts of sources

A source that is read as an expression can stand in parentheses, as an operand or as an argument of a
call, whatever it contains: its lexemes stay what they are (`SpellsAll.parenthesized`,
`SpellsAll.separated`), and they are derived wherever an expression may stand. Its nesting is added to
that of its place, so the depth of a source that is put together is known from the depths of its parts
(`read_composed`).
-/

namespace Calculator

def parenthesized (source : String) : String :=
  "(" ++ source ++ ")"

/-- A letter or an underscore, and then letters, numerals and underscores. -/
def IsIdentifier (name : String) : Prop :=
  ∃ c cs, name.toList = c :: cs ∧ Cursor.isNameStart c = true ∧ cs.all Cursor.isNamePart = true

def lowered (name : String) : String :=
  String.ofList (Text.lower name.toList)

theorem toList_parenthesized (source : String) :
    (parenthesized source).toList = '(' :: (source.toList ++ [')']) := by
  simp [parenthesized]

/-! ## Lexemes -/

namespace Cursor

theorem SpellsAll.symbol_cons {c : Char} {l : Lexeme} {cs : List Char} {ls : List Lexeme}
    (hsymbol : symbol? c = some l) (h : SpellsAll cs ls) : SpellsAll (c :: cs) (l :: ls) := by
  have hgap : ([] : List Char).all Text.isBlank = true := rfl
  have hends : l.mayPrecede cs = true := by
    rcases symbol?_cases hsymbol with ⟨op, rfl⟩ | rfl | rfl | rfl <;> rfl
  exact SpellsAll.cons hgap (.symbol hsymbol) hends h

theorem SpellsAll.parenthesized {cs : List Char} {ls : List Lexeme} (h : SpellsAll cs ls) :
    SpellsAll ('(' :: (cs ++ [')'])) (.openParen :: (ls ++ [.closeParen])) := by
  have hclose : SpellsAll [')'] [.closeParen] := .symbol_cons rfl (.nil rfl)
  have hpart : isNamePart ')' = false := by decide +kernel
  exact .symbol_cons rfl (h.append hclose fun l _ => l.mayPrecede_cons [] rfl hpart)

theorem SpellsAll.separated {α : Type} (parts : List α) (cs : α → List Char)
    (ls : α → List Lexeme) (h : ∀ a ∈ parts, SpellsAll (cs a) (ls a)) :
    SpellsAll ([','].intercalate (parts.map cs)) (Reader.separated (parts.map ls)) := by
  have hpart : isNamePart ',' = false := by decide +kernel
  induction parts with
  | nil => exact .nil rfl
  | cons a parts ih =>
    obtain ⟨ha, hparts⟩ := List.forall_mem_cons.mp h
    cases parts with
    | nil => simpa [Reader.separated] using ha
    | cons b parts =>
      have hrest := SpellsAll.symbol_cons (c := ',') rfl (ih hparts)
      have hends : ∀ l ∈ ls a, l.mayPrecede (',' :: [','].intercalate ((b :: parts).map cs)) = true :=
        fun l _ => l.mayPrecede_cons _ rfl hpart
      simpa [List.intercalate_cons_cons, Reader.separated] using ha.append hrest hends

theorem SpellsAll.name_cons {name : String} {cs : List Char} {ls : List Lexeme}
    (hname : IsIdentifier name) (h : SpellsAll ('(' :: cs) ls) :
    SpellsAll (name.toList ++ '(' :: cs) (.name (lowered name) :: ls) := by
  obtain ⟨c, rest, hchars, hc, hrest⟩ := hname
  have hgap : ([] : List Char).all Text.isBlank = true := rfl
  have hpart : isNamePart '(' = false := by decide +kernel
  have hends : (Lexeme.name (lowered name)).mayPrecede ('(' :: cs) = true := by
    simp [Lexeme.mayPrecede, hpart]
  have hspells : Spells name.toList (.name (lowered name)) := by
    rw [lowered, hchars]
    exact .name hc hrest
  exact SpellsAll.cons hgap hspells hends h

end Cursor

namespace Reader

/-! ## Depth -/

/-- The greatest depth at which a source is read. -/
def readingDepth (source : String) : Nat :=
  State.start.reach (Tokens.ofSource source).lexemes

theorem Phrase.Reaches.start_reach {ls : List Lexeme} {n : Nat}
    (h : Phrase.Reaches .expression ls n) : State.start.reach ls = n := by
  have hstart : State.start.reach ls = 0 + n := h []
  rw [hstart, Nat.zero_add]

/-- Whatever is derived adds the same depth to every place where it may stand. -/
theorem Derives.exists_reaches {phrase : Phrase} {ls : List Lexeme} {e : Expr}
    (h : Derives phrase ls e) : ∃ n, phrase.Reaches ls n := by
  induction h with
  | number | text => exact ⟨0, .operand fun _ _ => rfl⟩
  | signed sign _ ih =>
    obtain ⟨n, hn⟩ := ih
    exact ⟨_, hn.signed sign⟩
  | group hd ih =>
    obtain ⟨n, hn⟩ := ih
    exact ⟨_, .group hd hn⟩
  | call name arguments ha ih =>
    refine ⟨_, .call name arguments (fun a => State.start.reach a.1) fun a hm => ⟨ha a hm, ?_⟩⟩
    obtain ⟨n, hn⟩ := ih a hm
    rwa [hn.start_reach]
  | factor _ ih =>
    obtain ⟨n, hn⟩ := ih
    exact ⟨n, hn.term⟩
  | product scaling hl _ ihl ihr =>
    obtain ⟨m, hm⟩ := ihl
    obtain ⟨n, hn⟩ := ihr
    exact ⟨_, .product scaling hl hm hn⟩
  | term _ ih =>
    obtain ⟨n, hn⟩ := ih
    exact ⟨n, hn.expression⟩
  | sum sign hl _ ihl ihr =>
    obtain ⟨m, hm⟩ := ihl
    obtain ⟨n, hn⟩ := ihr
    exact ⟨_, .sum sign hl hm hn⟩

theorem Derives.reaches {ls : List Lexeme} {e : Expr} (h : Derives .expression ls e) :
    Phrase.Reaches .expression ls (State.start.reach ls) := by
  obtain ⟨n, hn⟩ := h.exists_reaches
  rwa [hn.start_reach]

/-! ## Sources -/

/-- A source is read as an expression, unless its depth reaches the limit. -/
structure Composes (limit : Option Nat) (source : String) (e : Expr) (depth : Nat) : Prop where
  depth_eq : readingDepth source = depth
  read_eq : Expr.read limit source =
    if tooDeepAt limit depth then .error (.grammatical .tooDeep) else .ok (some e)

theorem composes_of_derives {source : String} {ls : List Lexeme} {e : Expr} {n : Nat}
    (limit : Option Nat) (hspells : Cursor.SpellsAll source.toList ls)
    (hd : Derives .expression ls e) (hreach : Phrase.Reaches .expression ls n) :
    Composes limit source e n := by
  obtain ⟨hlexemes, -⟩ := Tokens.spellsAll_ofSource.mp hspells
  have hdepth : readingDepth source = n := by rw [readingDepth, hlexemes, hreach.start_reach]
  exact ⟨hdepth, read_of_derives limit hspells hd hreach⟩

theorem spellsAll_of_read {limit : Option Nat} {source : String} {e : Expr}
    (h : Expr.read limit source = .ok (some e)) :
    Cursor.SpellsAll source.toList (Tokens.ofSource source).lexemes ∧
      Derives .expression (Tokens.ofSource source).lexemes e ∧
      Phrase.Reaches .expression (Tokens.ofSource source).lexemes (readingDepth source) := by
  obtain ⟨hending, hd⟩ := derives_of_read h
  exact ⟨Tokens.spellsAll_ofSource.mpr ⟨rfl, hending⟩, hd, hd.reaches⟩

section

variable {limit : Option Nat} {source left right : String} {e e' : Expr}

theorem spellsAll_parenthesized (h : Expr.read limit source = .ok (some e)) :
    ∃ ls, Cursor.SpellsAll (parenthesized source).toList ls ∧ Derives .factor ls e ∧
      Phrase.Reaches .factor ls (3 + readingDepth source) := by
  obtain ⟨hspells, hd, hreach⟩ := spellsAll_of_read h
  rw [toList_parenthesized]
  exact ⟨_, hspells.parenthesized, .group hd, .group hd hreach⟩

theorem composes_parenthesized (h : Expr.read limit source = .ok (some e)) :
    Composes limit (parenthesized source) e (3 + readingDepth source) := by
  obtain ⟨ls, hspells, hd, hreach⟩ := spellsAll_parenthesized h
  exact composes_of_derives limit hspells (.term (.factor hd)) hreach.term.expression

theorem symbol?_sign (sign : Sign) :
    Cursor.symbol? sign.symbol = some (.operator (.sum sign)) := by
  cases sign <;> rfl

theorem symbol?_operator (op : Operator) : Cursor.symbol? op.symbol = some (.operator op) := by
  cases op with
  | sum sign => exact symbol?_sign sign
  | product scaling => cases scaling <;> rfl

theorem composes_signed (sign : Sign) (h : Expr.read limit source = .ok (some e)) :
    Composes limit (sign.symbol.toString ++ parenthesized source) (.signed sign e)
      (4 + readingDepth source) := by
  obtain ⟨ls, hspells, hd, hreach⟩ := spellsAll_parenthesized h
  have hspells := Cursor.SpellsAll.symbol_cons (symbol?_sign sign) hspells
  have hdepth : 4 + readingDepth source = 1 + (3 + readingDepth source) := by omega
  have hchars : (sign.symbol.toString ++ parenthesized source).toList =
      sign.symbol :: (parenthesized source).toList := by simp
  rw [← hchars] at hspells
  rw [hdepth]
  exact composes_of_derives limit hspells (.term (.factor (.signed sign hd)))
    (hreach.signed sign).term.expression

theorem mayPrecede_operator (op : Operator) (l : Lexeme) (rest : List Char) :
    l.mayPrecede (op.symbol :: rest) = true := by
  have hnumber : Cursor.mayFollowNumber op.symbol = true := by
    cases op with
    | sum sign => cases sign <;> rfl
    | product scaling => cases scaling <;> rfl
  have hname : Cursor.isNamePart op.symbol = false := by
    cases op with
    | sum sign => cases sign <;> decide +kernel
    | product scaling => cases scaling <;> decide +kernel
  exact l.mayPrecede_cons rest hnumber hname

theorem composes_binary (op : Operator) (h : Expr.read limit left = .ok (some e))
    (h' : Expr.read limit right = .ok (some e')) :
    Composes limit (parenthesized left ++ op.symbol.toString ++ parenthesized right)
      (.binary e op e') (3 + max (readingDepth left) (readingDepth right)) := by
  obtain ⟨ls, hspells, hd, hreach⟩ := spellsAll_parenthesized h
  obtain ⟨ms, hspells', hd', hreach'⟩ := spellsAll_parenthesized h'
  have hright := Cursor.SpellsAll.symbol_cons (symbol?_operator op) hspells'
  have hall := hspells.append hright fun l _ => mayPrecede_operator op l _
  have hchars : (parenthesized left ++ op.symbol.toString ++ parenthesized right).toList =
      (parenthesized left).toList ++ op.symbol :: (parenthesized right).toList := by simp
  rw [← hchars] at hall
  rw [← Nat.add_max_add_left]
  -- Both operands are factors, so either tier of operators takes them.
  cases op with
  | sum sign =>
    exact composes_of_derives limit hall (.sum sign (.term (.factor hd)) (.factor hd'))
      (.sum sign (.term (.factor hd)) hreach.term.expression hreach'.term)
  | product scaling =>
    exact composes_of_derives limit hall (.term (.product scaling (.factor hd) hd'))
      (Phrase.Reaches.product scaling (.factor hd) hreach.term hreach').expression

theorem composes_call {name : String} (hname : IsIdentifier name)
    (arguments : List (String × Expr))
    (h : ∀ a ∈ arguments, Expr.read limit a.1 = .ok (some a.2)) :
    Composes limit (name ++ parenthesized (",".intercalate (arguments.map Prod.fst)))
      (.call (lowered name) (arguments.map Prod.snd))
      (4 + (arguments.map fun a => readingDepth a.1).foldr max 0) := by
  let lexemes (a : String × Expr) : List Lexeme := (Tokens.ofSource a.1).lexemes
  have hspells := Cursor.SpellsAll.separated arguments (fun a => a.1.toList) lexemes
    fun a ha => (spellsAll_of_read (h a ha)).1
  have hall := Cursor.SpellsAll.name_cons hname hspells.parenthesized
  have hchars : (name ++ parenthesized (",".intercalate (arguments.map Prod.fst))).toList =
      name.toList ++ '(' :: ([','].intercalate (arguments.map fun a => a.1.toList) ++ [')']) := by
    simp [toList_parenthesized, String.toList_intercalate, Function.comp_def]
  rw [← hchars] at hall
  have hphrases : ∀ p ∈ arguments.map fun a => (lexemes a, a.2),
      Derives .expression p.1 p.2 ∧
        Phrase.Reaches .expression p.1 (State.start.reach p.1) :=
    List.forall_mem_map.mpr fun a ha => (spellsAll_of_read (h a ha)).2
  have hd := Derives.call (lowered name) _ fun p hp => (hphrases p hp).1
  have hreach := Phrase.Reaches.call (lowered name) _ (fun p => State.start.reach p.1) hphrases
  simp only [List.map_map, Function.comp_def] at hd hreach
  exact composes_of_derives limit hall (.term (.factor hd)) hreach.term.expression

end

/-- Whatever sources are read as, they are read so as parts of other sources: in parentheses, behind a
sign, on both sides of an operator, and as the arguments of a call of any name. Only the depth of the
whole can be too great for the limit. -/
theorem read_composed (limit : Option Nat) :
    (∀ source e, Expr.read limit source = .ok (some e) →
      Composes limit (parenthesized source) e (3 + readingDepth source) ∧
      ∀ sign : Sign, Composes limit (sign.symbol.toString ++ parenthesized source)
        (.signed sign e) (4 + readingDepth source)) ∧
    (∀ left right e e', Expr.read limit left = .ok (some e) →
      Expr.read limit right = .ok (some e') →
      ∀ op : Operator, Composes limit
        (parenthesized left ++ op.symbol.toString ++ parenthesized right) (.binary e op e')
        (3 + max (readingDepth left) (readingDepth right))) ∧
    ∀ (name : String) (arguments : List (String × Expr)), IsIdentifier name →
      (∀ a ∈ arguments, Expr.read limit a.1 = .ok (some a.2)) →
      Composes limit (name ++ parenthesized (",".intercalate (arguments.map Prod.fst)))
        (.call (lowered name) (arguments.map Prod.snd))
        (4 + (arguments.map fun a => readingDepth a.1).foldr max 0) := by
  refine ⟨fun source e h => ⟨composes_parenthesized h, fun sign => composes_signed sign h⟩, ?_, ?_⟩
  · exact fun left right e e' h h' op => composes_binary op h h'
  · exact fun name arguments hname h => composes_call hname arguments h

/-- Parentheses and commas in a text, a number at the end and a blank before the comma are no
concern of the call. -/
theorem read_composed_len :
    Expr.read (some nestingLimit) "\"),(\" " = .ok (some (.text "),(")) ∧
    Expr.read (some nestingLimit) "-1e5" =
      .ok (some (.signed .minus (.number (.ofInt 100000)))) ∧
    IsIdentifier "LEN" ∧
    Expr.read (some nestingLimit) "LEN(\"),(\" ,-1e5)" =
      .ok (some (.call "len" [.text "),(", .signed .minus (.number (.ofInt 100000))])) ∧
    Expr.read (some nestingLimit) "(-1e5)%(\"),(\" )" =
      .ok (some (.binary (.signed .minus (.number (.ofInt 100000))) (.product .modulo)
        (.text "),("))) := by
  have htext : Expr.read (some nestingLimit) "\"),(\" " = .ok (some (.text "),(")) := by
    have hspells : Cursor.SpellsAll "\"),(\" ".toList [.text "),("] :=
      Tokens.spellsAll_ofSource.mpr ⟨by decide +kernel, 6, eq_ok_of_toOption (by decide +kernel)⟩
    have hd : Derives .expression [.text "),("] (.text "),(") := .term (.factor (.text _))
    exact read_of_derives _ hspells hd hd.reaches
  have hnumber : Expr.read (some nestingLimit) "-1e5" =
      .ok (some (.signed .minus (.number (.ofInt 100000)))) := by
    have hspells : Cursor.SpellsAll "-1e5".toList
        [.operator (.sum .minus), .number "1e5" (.ofInt 100000)] :=
      Tokens.spellsAll_ofSource.mpr ⟨by decide +kernel, 4, eq_ok_of_toOption (by decide +kernel)⟩
    have hd := Derives.signed .minus (.number "1e5" (.ofInt 100000))
    exact read_of_derives _ hspells (.term (.factor hd)) (Derives.term (.factor hd)).reaches
  have hname : IsIdentifier "LEN" := ⟨'L', ['E', 'N'], rfl, by decide +kernel, by decide +kernel⟩
  obtain ⟨-, hbinary, hcall⟩ := read_composed (some nestingLimit)
  have hcall := hcall "LEN" [("\"),(\" ", _), ("-1e5", _)] hname
    (List.forall_mem_cons.mpr ⟨htext, List.forall_mem_singleton.mpr hnumber⟩)
  have hbinary := hbinary "-1e5" "\"),(\" " _ _ hnumber htext (.product .modulo)
  have hlowered : lowered "LEN" = "len" := by decide +kernel
  refine ⟨htext, hnumber, hname, ?_, ?_⟩
  · rw [← hlowered]
    exact hcall.read_eq.trans (if_neg (by decide +kernel))
  · exact hbinary.read_eq.trans (if_neg (by decide +kernel))

end Reader

end Calculator
