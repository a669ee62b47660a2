import Calculator.Expr.Outline
import Calculator.Proofs.Expr.Composed
import Calculator.Proofs.Expr.RoundTrip
import Calculator.Proofs.Text.LetterCase
import Calculator.Proofs.Text.Quoted

/-!
# Outlines tell trees apart

The outline of a tree that was read tells the tree and where the outline ends, whatever stands
behind it: the heading of a node is told from its operands (`heading_append_inj`), each operand from
the next, and the last from the end of the list. By induction on the tree, two outlines are equal
only for equal trees (`Genuine.told`). An outline further to the right is the same one with more
blanks in front of every line, as no heading is broken into lines (`Genuine.outline_add`).
-/

namespace Calculator

/-! ## Numbers, operators and names -/

theorem Binary64.write_cases {value : Binary64} (h : value.isUnsigned = true) :
    value = .infinite false ∨ ∃ decimal, Cursor.Numeric value.write ∧
      Decimal.read? value.write = some decimal ∧ value = decimal.toBinary64 false := by
  cases value with
  | nan => cases h
  | infinite negative =>
    cases negative with
    | false => exact .inl rfl
    | true => cases h
  | finite negative units hunits =>
    cases negative with
    | false =>
      obtain ⟨decimal, hnumeric, hread, -, hvalue⟩ := (spells_text hunits).of_number
      exact .inr ⟨decimal, hnumeric, hread, hvalue⟩
    | true => cases h

theorem Binary64.not_numeric_infinite : ¬Cursor.Numeric (write (.infinite false)) := by
  intro h
  generalize hcs : write (.infinite false) = cs at h
  obtain ⟨hdigit, -, -⟩ := h
  rw [(List.cons.inj hcs).1.symm] at hdigit
  cases hdigit

theorem Binary64.write_inj {value value' : Binary64} (h : value.isUnsigned = true)
    (h' : value'.isUnsigned = true) (heq : value.write = value'.write) : value = value' := by
  rcases write_cases h with rfl | ⟨decimal, hnumeric, hread, hvalue⟩
  · rcases write_cases h' with rfl | ⟨-, hnumeric, -⟩
    · rfl
    · exact absurd (heq ▸ hnumeric) not_numeric_infinite
  · rcases write_cases h' with rfl | ⟨decimal', -, hread', hvalue'⟩
    · exact absurd (heq ▸ hnumeric) not_numeric_infinite
    · rw [heq, hread', Option.some_inj] at hread
      rw [hvalue, hvalue', hread]

theorem Binary64.notMem_write {value : Binary64} {c : Char} (h : value.isUnsigned = true)
    (hletter : c ∉ write (.infinite false)) (hpoint : Cursor.isDigitOrPoint c = false)
    (hmark : Cursor.isExponentMark c = false) (hsign : Cursor.isSign c = false) :
    c ∉ value.write := by
  rcases write_cases h with rfl | ⟨-, hnumeric, -⟩
  · exact hletter
  · exact hnumeric.notMem hpoint hmark hsign

theorem Operator.symbol_inj {op op' : Operator} (h : op.symbol = op'.symbol) : op = op' := by
  have hread := congrArg Cursor.symbol? h
  rw [Reader.symbol?_operator, Reader.symbol?_operator] at hread
  exact Lexeme.operator.inj (Option.some.inj hread)

theorem notMem_name {name : String} {c : Char} (h : ∃ cs, Cursor.Spells cs (.name name))
    (hc : c.toNat < 0x41) (hpart : Cursor.isNamePart c = false) : c ∉ name.toList := by
  obtain ⟨cs, h⟩ := h
  cases h with
  | @name d ds hd hds =>
    rw [String.toList_ofList]
    have hd := Cursor.isNamePart_of_isNameStart hd
    exact fun hmem =>
      Text.notMem_cons hd hpart (Text.notMem_of_all hds hpart) (Text.mem_of_mem_lowerAfter hc hmem)
  | symbol hsymbol => rcases Cursor.symbol?_cases hsymbol with ⟨_, h⟩ | h | h | h <;> cases h

namespace Expr

open Reader

/-! ## Nodes -/

def operands : Expr → List Expr
  | .number _ | .text _ | .bare => []
  | .signed _ operand => [operand]
  | .binary left _ right => [left, right]
  | .call _ arguments => arguments

theorem outlines_eq (level : Nat) (es : List Expr) :
    outlines level es = es.map (outline level) := by
  induction es with
  | nil => rfl
  | cons e es ih => rw [outlines, ih, List.map_cons]

theorem outline_eq (level : Nat) (e : Expr) :
    e.outline level = node level e (e.operands.map (outline (level + 1))) := by
  cases e with
  | call name arguments => rw [outline, outlines_eq, operands]
  | _ => rfl

@[simp] theorem toList_heading_number (value : Binary64) :
    (heading (.number value)).toList = "NumberLiteral(value=".toList ++ value.write := by
  change s!"NumberLiteral(value={value.text}".toList = _
  simp [toString, Binary64.text]

@[simp] theorem toList_heading_text (content : String) :
    (heading (.text content)).toList =
      "TextLiteral(value=".toList ++ Text.quoted content.toList := by
  change s!"TextLiteral(value={quote content}".toList = _
  simp [toString, quote]

@[simp] theorem toList_heading_signed (sign : Sign) (operand : Expr) :
    (heading (.signed sign operand)).toList =
      "UnaryOp(operator='".toList ++ [sign.symbol, '\''] := by
  change s!"UnaryOp(operator='{sign.symbol}'".toList = _
  simp [toString]

@[simp] theorem toList_heading_binary (left right : Expr) (op : Operator) :
    (heading (.binary left op right)).toList =
      "BinaryOp(operator='".toList ++ [op.symbol, '\''] := by
  change s!"BinaryOp(operator='{op.symbol}'".toList = _
  simp [toString]

@[simp] theorem toList_heading_call (name : String) (arguments : List Expr) :
    (heading (.call name arguments)).toList =
      "Call(name='".toList ++ (name.toList ++ ['\'']) := by
  change s!"Call(name='{name}'".toList = _
  simp [toString]

theorem Genuine.operands {e : Expr} (h : e.Genuine) : ∀ a ∈ e.operands, a.Genuine := by
  cases h with
  | number | text => exact List.forall_mem_nil _
  | signed _ h => exact List.forall_mem_singleton.mpr h
  | binary _ hl hr => exact List.forall_mem_cons.mpr ⟨hl, List.forall_mem_singleton.mpr hr⟩
  | call _ ha => exact ha

/-- Induction over a tree that was read, all operands of a node at once. -/
theorem Genuine.induct {motive : Expr → Prop} {e : Expr} (h : e.Genuine)
    (step : ∀ e, e.Genuine → (∀ a ∈ e.operands, motive a) → motive e) : motive e := by
  induction h with
  | number hvalue => exact step _ (.number hvalue) (List.forall_mem_nil _)
  | text hcontent => exact step _ (.text hcontent) (List.forall_mem_nil _)
  | signed sign h ih => exact step _ (.signed sign h) (List.forall_mem_singleton.mpr ih)
  | binary op hl hr ihl ihr =>
    exact step _ (.binary op hl hr)
      (List.forall_mem_cons.mpr ⟨ihl, List.forall_mem_singleton.mpr ihr⟩)
  | call hname ha ih => exact step _ (.call hname ha) ih

theorem intercalate_cons (sep first : List Char) (more : List (List Char)) :
    sep.intercalate (first :: more) = first ++ more.flatMap (sep ++ ·) := by
  induction more generalizing first with
  | nil => simp
  | cons second more ih => simp [List.intercalate_cons_cons, ih]

def margin (level : Nat) : List Char :=
  List.replicate (4 * level) ' '

theorem margin_add (level k : Nat) : margin (level + k) = margin k ++ margin level := by
  rw [margin, margin, margin, List.replicate_append_replicate, Nat.mul_add, Nat.add_comm]

def operandChars (level : Nat) : List (List Char) → List Char
  | [] => []
  | first :: more =>
    ", nodes=[\n".toList ++ (first ++ (more.flatMap (",\n".toList ++ ·) ++
      '\n' :: (margin level ++ [']'])))

theorem operandList_cons (level : Nat) (first : String) (more : List String) :
    operandList level (first :: more) =
      ", nodes=[\n" ++ ",\n".intercalate (first :: more) ++ "\n" ++ indentation level ++ "]" :=
  rfl

theorem operandChars_cons (level : Nat) (first : List Char) (more : List (List Char)) :
    operandChars level (first :: more) =
      ", nodes=[\n".toList ++ (first ++ (more.flatMap (",\n".toList ++ ·) ++
        '\n' :: (margin level ++ [']']))) :=
  rfl

theorem toList_operandList (level : Nat) (operands : List String) :
    (operandList level operands).toList = operandChars level (operands.map String.toList) := by
  cases operands with
  | nil => rfl
  | cons first more =>
    simp [operandList_cons, operandChars_cons, indentation, margin, String.toList_intercalate,
      intercalate_cons]

theorem toList_outline (level : Nat) (e : Expr) :
    (e.outline level).toList = margin level ++ (e.heading.toList ++
      (operandChars level (e.operands.map fun a => (a.outline (level + 1)).toList) ++ [')'])) := by
  rw [outline_eq, node]
  simp [indentation, margin, toList_operandList, Function.comp_def]

/-! ## Told apart -/

theorem heading_append_inj {e e' : Expr} (h : e.Genuine) (h' : e'.Genuine) {tail tail' : List Char}
    (htail : e.operands = [] → ∃ rest, tail = ')' :: rest)
    (htail' : e'.operands = [] → ∃ rest, tail' = ')' :: rest)
    (heq : e.heading.toList ++ tail = e'.heading.toList ++ tail') :
    (e.operands = e'.operands → e = e') ∧ tail = tail' := by
  -- Headings of different kinds differ in their first letter.
  cases h with
  | @number value hvalue =>
    cases h' with
    | @number value' hvalue' =>
      obtain ⟨rest, rfl⟩ := htail rfl
      obtain ⟨rest', rfl⟩ := htail' rfl
      have hclose : ∀ {value : Binary64}, value.isUnsigned = true → ')' ∉ value.write := fun h =>
        Binary64.notMem_write h (by decide) rfl rfl rfl
      have heq : value.write ++ ')' :: rest = value'.write ++ ')' :: rest' := by simpa using heq
      obtain ⟨hwrite, rfl⟩ := Text.append_cons_inj (hclose hvalue) (hclose hvalue') heq
      obtain rfl := Binary64.write_inj hvalue hvalue' hwrite
      exact ⟨fun _ => rfl, rfl⟩
    | _ => simp at heq
  | @text content =>
    cases h' with
    | @text content' =>
      have heq : Text.quoted content.toList ++ tail = Text.quoted content'.toList ++ tail' := by
        simpa using heq
      obtain ⟨hcontent, rfl⟩ := Text.quoted_append_inj heq
      obtain rfl := String.toList_inj.mp hcontent
      exact ⟨fun _ => rfl, rfl⟩
    | _ => simp at heq
  | @signed operand sign =>
    cases h' with
    | @signed operand' sign' =>
      obtain ⟨hsymbol, rfl⟩ : sign.symbol = sign'.symbol ∧ tail = tail' := by simpa using heq
      obtain rfl := Operator.sum.inj (Operator.symbol_inj hsymbol)
      refine ⟨?_, rfl⟩
      rintro ⟨⟩
      rfl
    | _ => simp at heq
  | @binary left right op =>
    cases h' with
    | @binary left' right' op' =>
      obtain ⟨hsymbol, rfl⟩ : op.symbol = op'.symbol ∧ tail = tail' := by simpa using heq
      obtain rfl := Operator.symbol_inj hsymbol
      refine ⟨?_, rfl⟩
      rintro ⟨⟩
      rfl
    | _ => simp at heq
  | @call name arguments hname =>
    cases h' with
    | @call name' arguments' hname' =>
      have hquote : ∀ {name : String},
          (∃ cs, Cursor.Spells cs (.name name)) → '\'' ∉ name.toList :=
        fun h => notMem_name h (by decide) (by decide +kernel)
      have heq : name.toList ++ '\'' :: tail = name'.toList ++ '\'' :: tail' := by simpa using heq
      obtain ⟨hname, rfl⟩ := Text.append_cons_inj (hquote hname) (hquote hname') heq
      obtain rfl := String.toList_inj.mp hname
      refine ⟨?_, rfl⟩
      rintro rfl
      rfl
    | _ => simp at heq

/-- The outline of the tree is that of no other tree, and where it ends is known. -/
def Told (e : Expr) : Prop :=
  ∀ e' : Expr, e'.Genuine → ∀ level rest rest',
    (e.outline level).toList ++ rest = (e'.outline level).toList ++ rest' → e = e' ∧ rest = rest'

theorem more_append_inj {level : Nat} {es es' : List Expr} {rest rest' : List Char}
    (h : ∀ a ∈ es, a.Told) (h' : ∀ a ∈ es', a.Genuine)
    (heq : (es.map fun a => (a.outline level).toList).flatMap (",\n".toList ++ ·) ++ '\n' :: rest =
      (es'.map fun a => (a.outline level).toList).flatMap (",\n".toList ++ ·) ++ '\n' :: rest') :
    es = es' ∧ rest = rest' := by
  induction es generalizing es' with
  | nil =>
    cases es' with
    | nil => exact ⟨rfl, by simpa using heq⟩
    | cons => simp at heq
  | cons a es ih =>
    cases es' with
    | nil => simp at heq
    | cons a' es' =>
      obtain ⟨ha, hes⟩ := List.forall_mem_cons.mp h
      obtain ⟨ha', hes'⟩ := List.forall_mem_cons.mp h'
      simp only [List.map_cons, List.flatMap_cons, List.append_assoc] at heq
      obtain ⟨rfl, hmore⟩ := ha a' ha' level _ _ (List.append_cancel_left heq)
      obtain ⟨rfl, hrest⟩ := ih hes hes' hmore
      exact ⟨rfl, hrest⟩

theorem operandChars_append_inj {level inner : Nat} {es es' : List Expr} {rest rest' : List Char}
    (h : ∀ a ∈ es, a.Told) (h' : ∀ a ∈ es', a.Genuine)
    (heq : operandChars level (es.map fun a => (a.outline inner).toList) ++ ')' :: rest =
      operandChars level (es'.map fun a => (a.outline inner).toList) ++ ')' :: rest') :
    es = es' ∧ rest = rest' := by
  cases es with
  | nil =>
    cases es' with
    | nil => exact ⟨rfl, by simpa using heq⟩
    | cons => cases heq
  | cons a es =>
    cases es' with
    | nil => cases heq
    | cons a' es' =>
      obtain ⟨ha, hes⟩ := List.forall_mem_cons.mp h
      obtain ⟨ha', hes'⟩ := List.forall_mem_cons.mp h'
      simp only [List.map_cons, operandChars_cons, List.append_assoc, List.cons_append] at heq
      obtain ⟨rfl, hmore⟩ := ha a' ha' inner _ _ (List.append_cancel_left heq)
      obtain ⟨rfl, hclosed⟩ := more_append_inj hes hes' hmore
      exact ⟨rfl, by simpa using hclosed⟩

theorem operandChars_of_nil {level : Nat} {e : Expr} (f : Expr → List Char) (rest : List Char)
    (h : e.operands = []) :
    ∃ more, operandChars level (e.operands.map f) ++ ')' :: rest = ')' :: more := by
  rw [h]
  exact ⟨rest, rfl⟩

theorem Genuine.told {e : Expr} (h : e.Genuine) : e.Told := by
  refine h.induct fun e h ih e' h' level rest rest' heq => ?_
  rw [toList_outline level e, toList_outline level e'] at heq
  simp only [List.append_assoc, List.singleton_append] at heq
  obtain ⟨hnode, htail⟩ := heading_append_inj h h' (operandChars_of_nil _ rest)
    (operandChars_of_nil _ rest') (List.append_cancel_left heq)
  obtain ⟨hoperands, hrest⟩ := operandChars_append_inj ih h'.operands htail
  exact ⟨hnode hoperands, hrest⟩

theorem Genuine.outline_inj {e e' : Expr} (h : e.Genuine) (h' : e'.Genuine) {level : Nat}
    (heq : e.outline level = e'.outline level) : e = e' := by
  have heq : (e.outline level).toList ++ [] = (e'.outline level).toList ++ [] := by rw [heq]
  exact (h.told e' h' level [] [] heq).1

/-! ## Further to the right -/

def behindFeeds (k : Nat) (cs : List Char) : List Char :=
  cs.flatMap fun c => if c = '\n' then '\n' :: margin k else [c]

theorem intercalate_margin (k : Nat) (cs : List Char) :
    ['\n'].intercalate ((cs.splitOn '\n').map (margin k ++ ·)) = margin k ++ behindFeeds k cs := by
  induction cs with
  | nil => simp [behindFeeds, List.splitOn_nil]
  | cons c cs ih =>
    have hne : cs.splitOn '\n' ≠ [] := List.splitOn_ne_nil _ _
    cases hlines : cs.splitOn '\n' with
    | nil => exact absurd hlines hne
    | cons line lines =>
      rw [hlines, List.map_cons, intercalate_cons, List.append_assoc] at ih
      have ih := List.append_cancel_left ih
      rw [List.splitOn_cons_eq_if_modifyHead, hlines]
      by_cases hc : c = '\n' <;> simpa [hc, intercalate_cons, behindFeeds] using ih

theorem behindFeeds_append (k : Nat) (cs ds : List Char) :
    behindFeeds k (cs ++ ds) = behindFeeds k cs ++ behindFeeds k ds := by
  simp [behindFeeds]

theorem behindFeeds_newline (k : Nat) (cs : List Char) :
    behindFeeds k ('\n' :: cs) = '\n' :: (margin k ++ behindFeeds k cs) := by
  simp [behindFeeds]

theorem behindFeeds_of_notMem (k : Nat) {cs : List Char} (h : '\n' ∉ cs) :
    behindFeeds k cs = cs := by
  induction cs with
  | nil => rfl
  | cons c cs ih =>
    obtain ⟨hc, hcs⟩ := List.ne_and_not_mem_of_not_mem_cons h
    simpa [behindFeeds, Ne.symm hc] using ih hcs

theorem newline_notMem_heading {e : Expr} (h : e.Genuine) : '\n' ∉ e.heading.toList := by
  cases h with
  | @number value hvalue =>
    have hwrite := Binary64.notMem_write (c := '\n') hvalue (by decide) rfl rfl rfl
    simpa using hwrite
  | @text content => simpa using Text.newline_notMem_quoted content.toList
  | signed sign =>
    have hsymbol := (Cursor.symbol?_classes (symbol?_sign sign)).1
    simpa using Text.ne_of_isBlank rfl hsymbol
  | binary op =>
    have hsymbol := (Cursor.symbol?_classes (symbol?_operator op)).1
    simpa using Text.ne_of_isBlank rfl hsymbol
  | @call name _ hname =>
    have hname := notMem_name hname (c := '\n') (by decide) (by decide +kernel)
    simpa using hname

theorem behindFeeds_operandChars (level k : Nat) (operands : List (List Char)) :
    behindFeeds k (operandChars level operands) =
      operandChars (level + k) (operands.map fun cs => margin k ++ behindFeeds k cs) := by
  cases operands with
  | nil => rfl
  | cons first more =>
    have hopen : behindFeeds k ", nodes=[\n".toList = ", nodes=[\n".toList ++ margin k := by
      simp [behindFeeds]
    have hmore : behindFeeds k (more.flatMap (",\n".toList ++ ·)) =
        (more.map fun cs => margin k ++ behindFeeds k cs).flatMap (",\n".toList ++ ·) := by
      simp [behindFeeds, List.flatMap_assoc, List.flatMap_map]
    have hclose : behindFeeds k ('\n' :: (margin level ++ [']'])) =
        '\n' :: (margin (level + k) ++ [']']) := by
      have hnone : behindFeeds k (margin level ++ [']']) = margin level ++ [']'] :=
        behindFeeds_of_notMem k (by simp [margin])
      rw [behindFeeds_newline, hnone, margin_add, List.append_assoc]
    rw [List.map_cons, operandChars_cons, operandChars_cons]
    simp only [behindFeeds_append, hopen, hmore, hclose, List.append_assoc]

theorem Genuine.outline_add {e : Expr} (h : e.Genuine) (k level : Nat) :
    (e.outline (level + k)).toList = margin k ++ behindFeeds k (e.outline level).toList := by
  refine h.induct (motive := fun e => ∀ level, (e.outline (level + k)).toList =
    margin k ++ behindFeeds k (e.outline level).toList) (fun e h ih level => ?_) level
  have hmargin : behindFeeds k (margin level) = margin level :=
    behindFeeds_of_notMem k (by simp [margin])
  have hoperands : (e.operands.map fun a => (a.outline (level + k + 1)).toList) =
      (e.operands.map fun a => (a.outline (level + 1)).toList).map
        fun cs => margin k ++ behindFeeds k cs := by
    rw [List.map_map]
    refine List.map_congr_left fun a ha => ?_
    rw [Nat.add_right_comm, ih a ha]
    rfl
  have hheading := behindFeeds_of_notMem k (newline_notMem_heading h)
  have hend : behindFeeds k [')'] = [')'] := rfl
  rw [toList_outline (level + k) e, toList_outline level e, hoperands]
  simp only [behindFeeds_append, behindFeeds_operandChars, hmargin, hheading, hend, margin_add,
    List.append_assoc]

/-- Trees that were read have equal outlines only if they are equal, and an outline at another level
has the same lines, each behind four blanks for each level. -/
theorem outline_unambiguous (limit limit' : Option Nat) (source source' : String) (e e' : Expr)
    (h : Expr.read limit source = .ok (some e)) (h' : Expr.read limit' source' = .ok (some e')) :
    (∀ level, e.outline level = e'.outline level → e = e') ∧
    ∀ k, (e.outline k).toList = ['\n'].intercalate
      (((e.outline 0).toList.splitOn '\n').map (List.replicate (4 * k) ' ' ++ ·)) := by
  have hgenuine := genuine_of_read h
  refine ⟨fun level => hgenuine.outline_inj (genuine_of_read h'), fun k => ?_⟩
  have hadd := hgenuine.outline_add k 0
  rw [Nat.zero_add, ← intercalate_margin] at hadd
  exact hadd

/-- A text that holds what stands between two operands is not two operands. -/
theorem outline_unambiguous_text :
    Expr.read none "f(\"a'),\n    TextLiteral(value='b\")" =
      .ok (some (.call "f" [.text "a'),\n    TextLiteral(value='b"])) ∧
    Expr.read none "F(\"a\",\"b\")" = .ok (some (.call "f" [.text "a", .text "b"])) ∧
    outline 0 (.call "f" [.text "a'),\n    TextLiteral(value='b"]) ≠
      outline 0 (.call "f" [.text "a", .text "b"]) ∧
    (outline 1 (.call "f" [.text "a", .text "b"])).toList = ['\n'].intercalate
      (((outline 0 (.call "f" [.text "a", .text "b"])).toList.splitOn '\n').map
        (List.replicate 4 ' ' ++ ·)) := by
  have hone : Expr.read none "f(\"a'),\n    TextLiteral(value='b\")" =
      .ok (some (.call "f" [.text "a'),\n    TextLiteral(value='b"])) := by
    have hspells : Cursor.SpellsAll "f(\"a'),\n    TextLiteral(value='b\")".toList
        [.name "f", .openParen, .text "a'),\n    TextLiteral(value='b", .closeParen] :=
      Tokens.spellsAll_ofSource.mpr ⟨by decide +kernel, 34, eq_ok_of_toOption (by decide +kernel)⟩
    exact read_eq_some_iff.mpr ⟨_, _, hspells, rfl, rfl⟩
  have htwo : Expr.read none "F(\"a\",\"b\")" =
      .ok (some (.call "f" [.text "a", .text "b"])) := by
    have hspells : Cursor.SpellsAll "F(\"a\",\"b\")".toList
        [.name "f", .openParen, .text "a", .comma, .text "b", .closeParen] :=
      Tokens.spellsAll_ofSource.mpr ⟨by decide +kernel, 10, eq_ok_of_toOption (by decide +kernel)⟩
    exact read_eq_some_iff.mpr ⟨_, _, hspells, rfl, rfl⟩
  obtain ⟨hinj, hlines⟩ := outline_unambiguous none none _ _ _ _ htwo hone
  refine ⟨hone, htwo, fun heq => ?_, hlines 1⟩
  exact absurd (hinj 0 heq.symm) (by simp)

end Expr

end Calculator
