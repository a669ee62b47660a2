import Calculator.Proofs.Evaluation.Reduction
import Calculator.Proofs.Expr.Outcome
import Calculator.Proofs.Token.LetterCase

/-!
# The case of letters in what is read

The reader does not look at how a number is spelled, so sources that are folded alike are read as
the same expression. Functions are found up to the case of ASCII letters and no further: the lower
case of a name is the name of a function just for the spellings of that in some capitals
(`resolves_lower`), although other letters can become ASCII ones in lower case.
-/

namespace Calculator

open Text

/-! ## Reading -/

namespace Reader

theorem State.step_unspelled (state : State) (l : Lexeme) :
    state.step l.unspelled = state.step l := by
  cases l <;> cases state <;> rfl

theorem State.walk_unspelled (limit : Option Nat) (state : State) (ls : List Lexeme) :
    state.walk limit (ls.map Lexeme.unspelled) = state.walk limit ls := by
  induction ls generalizing state with
  | nil => rfl
  | cons l ls ih => simp only [List.map_cons, State.walk, State.step_unspelled, ih]

end Reader

/-- What is read does not depend on the case of ASCII letters outside of texts. -/
theorem Expr.read_of_foldCase {limit : Option Nat} {source source' : String} {e : Option Expr}
    (hfold : foldCase false source'.toList = foldCase false source.toList)
    (h : Expr.read limit source = .ok e) : Expr.read limit source' = .ok e := by
  cases e with
  | none =>
    rw [Reader.read_eq_none_iff] at h ⊢
    obtain ⟨ms, hms, hls⟩ := (Cursor.SpellsAll.nil h).recased hfold
    obtain rfl := List.map_eq_nil_iff.mp hls
    generalize source'.toList = ds at hms
    cases hms with
    | nil hblank => exact hblank
  | some e =>
    obtain ⟨ls, last, hspells, hwalk, he⟩ := Reader.read_eq_some_iff.mp h
    obtain ⟨ms, hms, hls⟩ := hspells.recased hfold
    rw [← Reader.State.walk_unspelled, ← hls, Reader.State.walk_unspelled] at hwalk
    exact Reader.read_eq_some_iff.mpr ⟨ms, last, hms, hwalk, he⟩

/-! ## Finding functions -/

theorem Cursor.next_name {cursor : Cursor}
    (h : cursor.skipBlanks.rest.head?.any Cursor.isNameStart = true) :
    cursor.next = cursor.skipBlanks.name := by
  cases hrest : cursor.skipBlanks.rest with
  | nil =>
    rw [hrest] at h
    cases h
  | cons c cs =>
    have hstart : isNameStart c = true := by simpa [hrest] using h
    simp [next, hrest, read, isDigit_of_isNameStart hstart, ne_quote_of_isNameStart hstart, hstart]

theorem lookup_builtins {name : String} {f : Builtin} :
    Registry.builtins.lookup name = some f ↔ name = f.name := by
  constructor
  · intro h
    obtain ⟨before, after, hsplit, -⟩ := List.lookup_eq_some_iff.mp h
    have hmem : (name, f) ∈ Registry.builtins := by simp [hsplit]
    obtain ⟨g, -, hg⟩ := List.mem_map.mp hmem
    cases hg
    rfl
  · rintro rfl
    cases f <;> rfl

theorem name_ascii (f : Builtin) : ∀ d ∈ f.name.toList, d.toNat < 0x80 ∧ d ≠ 'k' := by
  have h : f.name.toList.all (fun d => decide (d.toNat < 0x80 ∧ d ≠ 'k')) = true := by
    cases f <;> decide
  exact fun d hd => of_decide_eq_true (List.all_eq_true.mp h d hd)

/-- The lower case of an identifier as the name of a function. -/
structure Resolves (identifier : List Char) (lowered : String) : Prop where
  find_iff : ∀ f, Registry.builtins.find lowered = .ok f ↔
    identifier.map Char.toLower = f.name.toList
  unknown : (∃ c ∈ identifier, 0x80 ≤ c.toNat) →
    Registry.builtins.find lowered = .error (.unknownFunction lowered)

theorem resolves_lower (identifier : List Char) :
    Resolves identifier (String.ofList (lower identifier)) := by
  have hiff : ∀ f, Registry.builtins.find (String.ofList (lower identifier)) = .ok f ↔
      identifier.map Char.toLower = f.name.toList := by
    intro f
    rw [Registry.find_eq_ok, lookup_builtins, ← lower_eq_iff (name_ascii f), ← String.toList_inj,
      String.toList_ofList]
  refine ⟨hiff, ?_⟩
  rintro ⟨c, hc, hbeyond⟩
  cases hfind : Registry.builtins.find (String.ofList (lower identifier)) with
  | ok f =>
    have hmem : c.toLower ∈ f.name.toList := (hiff f).mp hfind ▸ List.mem_map_of_mem hc
    rw [toLower_of_le hbeyond] at hmem
    exact absurd hbeyond (Nat.not_le_of_lt (name_ascii f c hmem).1)
  | error error => rw [(Registry.find_eq_error.mp hfind).2]

/-- Sources that differ in the case of ASCII letters outside of texts are read as the same
expression, and an identifier calls a function only if it is its name up to the case of such
letters. -/
theorem ascii_case_insensitive (limit : Option Nat) :
    (∀ source source' : String,
      foldCase false source'.toList = foldCase false source.toList →
      ∀ e, Expr.read limit source = .ok e → Expr.read limit source' = .ok e) ∧
    ∀ cursor : Cursor, cursor.skipBlanks.rest.head?.any Cursor.isNameStart = true →
      ∃ lowered next, cursor.next = .token ⟨.name lowered, cursor.skipBlanks.position⟩ next ∧
        Resolves (cursor.skipBlanks.rest.takeWhile Cursor.isNamePart) lowered := by
  refine ⟨fun source source' hfold e h => Expr.read_of_foldCase hfold h, fun cursor hstart => ?_⟩
  exact ⟨_, _, Cursor.next_name hstart, resolves_lower _⟩

/-- The text keeps its capital, and a dotted capital makes no sine. -/
theorem ascii_case_insensitive_len :
    foldCase false "lEN(\"Ab\")+1e2".toList = foldCase false "Len(\"Ab\")+1E2".toList ∧
    Expr.read none "lEN(\"Ab\")+1e2" =
      .ok (some (.binary (.call "len" [.text "Ab"]) (.sum .plus) (.number (.ofInt 100)))) ∧
    ∃ lowered next, (Cursor.start "s\u0130n(1)").next = .token ⟨.name lowered, 0⟩ next ∧
      Registry.builtins.find lowered = .error (.unknownFunction lowered) := by
  have hfold : foldCase false "lEN(\"Ab\")+1e2".toList =
      foldCase false "Len(\"Ab\")+1E2".toList := by
    decide
  have hread : Expr.read none "Len(\"Ab\")+1E2" =
      .ok (some (.binary (.call "len" [.text "Ab"]) (.sum .plus) (.number (.ofInt 100)))) := by
    have hspells : Cursor.SpellsAll "Len(\"Ab\")+1E2".toList [.name "len", .openParen, .text "Ab",
        .closeParen, .operator (.sum .plus), .number "1E2" (.ofInt 100)] :=
      Tokens.spellsAll_ofSource.mpr
        ⟨by decide +kernel, 13, Reader.eq_ok_of_toOption (by decide +kernel)⟩
    exact Reader.read_eq_some_iff.mpr ⟨_, _, hspells, rfl, rfl⟩
  obtain ⟨hrecased, hnames⟩ := ascii_case_insensitive none
  obtain ⟨lowered, next, hnext, hresolves⟩ :=
    hnames (Cursor.start "s\u0130n(1)") (by decide +kernel)
  have hdotted : ∃ c ∈ (Cursor.start "s\u0130n(1)").skipBlanks.rest.takeWhile Cursor.isNamePart,
      0x80 ≤ c.toNat :=
    ⟨'\u0130', by decide +kernel, by decide⟩
  exact ⟨hfold, hrecased _ _ hfold _ hread, lowered, next, hnext, hresolves.unknown hdotted⟩

end Calculator
