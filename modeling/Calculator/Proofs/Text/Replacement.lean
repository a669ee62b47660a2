import Mathlib.Data.List.Infix
import Calculator.Builtin

/-!
# Occurrences and the pieces between them

A text is cut at the occurrences of another text, of which each is the leftmost one behind the one
before (`Pieces`). Unless the other text is empty there is exactly one way to cut (`exists_pieces`,
`Pieces.unique`). Replacing joins the pieces with the new text (`Pieces.replace_eq`), so what it
puts in is never searched again, and no character is special to it (`replace_map`).
-/

namespace Calculator.Text

/-- Of all occurrences of `old` in this text, none begins before the one behind `s`. -/
def Leftmost (old s rest : List Char) : Prop :=
  ∀ before behind, s ++ (old ++ rest) = before ++ (old ++ behind) → s.length ≤ before.length

/-- What stands before, between and behind the occurrences of `old`. -/
inductive Pieces (old : List Char) : List Char → List (List Char) → Prop
  | last {text : List Char} : ¬old <:+: text → Pieces old text [text]
  | cons {s rest : List Char} {pieces : List (List Char)} : Leftmost old s rest →
      Pieces old rest pieces → Pieces old (s ++ (old ++ rest)) (s :: pieces)

variable {old text : List Char}

/-! ## One way to cut -/

theorem Leftmost.tail {c : Char} {s rest : List Char} (h : Leftmost old (c :: s) rest) :
    Leftmost old s rest := by
  intro before behind heq
  have := h (c :: before) behind (by rw [List.cons_append, heq, List.cons_append])
  simpa using this

theorem Leftmost.not_prefix {c : Char} {s rest : List Char} (h : Leftmost old (c :: s) rest) :
    ¬old <+: c :: (s ++ (old ++ rest)) := by
  rintro ⟨behind, heq⟩
  have := h [] behind heq.symm
  simp at this

theorem exists_leftmost (h : old <:+: text) :
    ∃ s rest, text = s ++ (old ++ rest) ∧ Leftmost old s rest := by
  induction text with
  | nil =>
    obtain rfl := List.infix_nil.mp h
    exact ⟨[], [], rfl, fun _ _ _ => Nat.zero_le _⟩
  | cons c text ih =>
    by_cases hprefix : old <+: c :: text
    · obtain ⟨rest, heq⟩ := hprefix
      exact ⟨[], rest, heq.symm, fun _ _ _ => Nat.zero_le _⟩
    · obtain ⟨s, rest, rfl, hleft⟩ := ih ((List.infix_cons_iff.mp h).resolve_left hprefix)
      refine ⟨c :: s, rest, rfl, ?_⟩
      intro before behind heq
      cases before with
      | nil => exact absurd ⟨behind, heq.symm⟩ hprefix
      | cons d before =>
        have := hleft before behind (List.cons.inj heq).2
        simpa using this

theorem exists_pieces (hold : old ≠ []) (text : List Char) : ∃ pieces, Pieces old text pieces := by
  induction hlength : text.length using Nat.strongRecOn generalizing text with
  | ind n ih =>
    by_cases h : old <:+: text
    · obtain ⟨s, rest, rfl, hleft⟩ := exists_leftmost h
      have hpos := List.length_pos_iff.mpr hold
      have hshorter : rest.length < n := by
        simp only [List.length_append] at hlength
        omega
      obtain ⟨pieces, hpieces⟩ := ih _ hshorter rest rfl
      exact ⟨s :: pieces, .cons hleft hpieces⟩
    · exact ⟨[text], .last h⟩

theorem Pieces.unique {pieces others : List (List Char)} (h : Pieces old text pieces)
    (h' : Pieces old text others) : pieces = others := by
  induction h generalizing others with
  | @last text hnone =>
    cases h' with
    | last => rfl
    | @cons s rest _ _ _ => exact absurd ⟨s, rest, List.append_assoc ..⟩ hnone
  | @cons s rest pieces hleft _ ih =>
    generalize htext : s ++ (old ++ rest) = text at h'
    cases h' with
    | last hnone =>
      subst htext
      exact absurd ⟨s, rest, List.append_assoc ..⟩ hnone
    | @cons s' rest' pieces' hleft' h' =>
      have hlength : s.length = s'.length :=
        Nat.le_antisymm (hleft s' rest' htext) (hleft' s rest htext.symm)
      obtain ⟨rfl, hbehind⟩ := List.append_inj htext hlength
      obtain rfl := List.append_cancel_left hbehind
      rw [ih h']

theorem Pieces.ne_nil {pieces : List (List Char)} (h : Pieces old text pieces) : pieces ≠ [] := by
  cases h <;> exact List.cons_ne_nil _ _

theorem Pieces.intercalate_eq {pieces : List (List Char)} (h : Pieces old text pieces) :
    old.intercalate pieces = text := by
  induction h with
  | last => exact List.intercalate_singleton
  | cons _ h ih =>
    rw [List.intercalate_cons_of_ne_nil h.ne_nil, ih, List.append_assoc]

/-! ## Replacing -/

section

variable {o : Char} {os : List Char} (new : List Char)

theorem substitute_append (rest : List Char) :
    substitute o os new (o :: os ++ rest) = new ++ substitute o os new rest := by
  have hprefix : (o :: os).isPrefixOf (o :: (os ++ rest)) = true :=
    List.isPrefixOf_iff_prefix.mpr (List.prefix_append (o :: os) rest)
  rw [List.cons_append, substitute, if_pos hprefix, List.drop_left]

theorem substitute_cons {c : Char} {cs : List Char} (h : ¬o :: os <+: c :: cs) :
    substitute o os new (c :: cs) = c :: substitute o os new cs := by
  rw [substitute, if_neg]
  rwa [List.isPrefixOf_iff_prefix]

theorem substitute_eq_self (h : ¬o :: os <:+: text) : substitute o os new text = text := by
  induction text with
  | nil => rw [substitute]
  | cons c text ih =>
    rw [List.infix_cons_iff, not_or] at h
    rw [substitute_cons new h.1, ih h.2]

theorem Leftmost.substitute_eq {s rest : List Char} (h : Leftmost (o :: os) s rest) :
    substitute o os new (s ++ (o :: os ++ rest)) = s ++ (new ++ substitute o os new rest) := by
  induction s with
  | nil => exact substitute_append new rest
  | cons c s ih =>
    rw [List.cons_append, substitute_cons new h.not_prefix, ih h.tail, List.cons_append]

end

theorem Pieces.replace_eq {pieces : List (List Char)} (hold : old ≠ []) (h : Pieces old text pieces)
    (new : List Char) : replace text old new = new.intercalate pieces := by
  cases old with
  | nil => exact absurd rfl hold
  | cons o os =>
    rw [replace]
    induction h with
    | last hnone => rw [substitute_eq_self new hnone, List.intercalate_singleton]
    | cons hleft h ih =>
      rw [hleft.substitute_eq, ih, List.intercalate_cons_of_ne_nil h.ne_nil, List.append_assoc]

theorem replace_nil (text new : List Char) :
    replace text [] new = new.intercalate ([] :: text.map ([·]) ++ [[]]) := by
  rw [replace]
  induction text with
  | nil => simp [List.intercalate_cons_cons]
  | cons c text ih =>
    rw [List.flatMap_cons, List.append_assoc, ih]
    simp [List.intercalate_cons_of_ne_nil]

theorem replace_self (text old : List Char) : replace text old old = text := by
  by_cases hold : old = []
  · subst hold
    simp [replace]
  · obtain ⟨pieces, h⟩ := exists_pieces hold text
    rw [h.replace_eq hold, h.intercalate_eq]

theorem replace_map {rename : Char → Char} (h : rename.Injective) (text old new : List Char) :
    replace (text.map rename) (old.map rename) (new.map rename) =
      (replace text old new).map rename := by
  cases old with
  | nil => simp [replace, List.flatMap_map, List.map_flatMap]
  | cons o os =>
    simp only [replace, List.map_cons]
    fun_induction substitute o os new text with
    | case1 => simp [substitute]
    | case2 c cs hprefix ih =>
      obtain ⟨rest, heq⟩ := List.isPrefixOf_iff_prefix.mp hprefix
      obtain ⟨rfl, rfl⟩ : o = c ∧ os ++ rest = cs := by simpa using heq
      rw [List.drop_left] at ih ⊢
      rw [List.map_append, ← ih, List.map_cons, List.map_append]
      exact substitute_append ..
    | case3 c cs hprefix ih =>
      have hmapped : ¬rename o :: os.map rename <+: rename c :: cs.map rename := by
        rw [List.isPrefixOf_iff_prefix] at hprefix
        simpa only [← List.map_cons, List.prefix_map_iff_of_injective h] using hprefix
      rw [List.map_cons, List.map_cons, substitute_cons _ hmapped, ih]

end Calculator.Text

namespace Calculator.Builtin

open Text

/-- There is one way to cut a text at the leftmost occurrences of an old text that is not empty, and
the pieces are joined with the new text. An old text that is empty stands before every character
and at the end. An old text in its own place changes nothing. And no character stands for anything
but itself: texts spelled with other characters have the result that is spelled with these. -/
theorem apply_replace (text old new : String) :
    (old ≠ "" → ∃ pieces, Pieces old.toList text.toList pieces ∧
      (∀ others, Pieces old.toList text.toList others → others = pieces) ∧
      old.toList.intercalate pieces = text.toList ∧
      Builtin.replace.apply [.text text, .text old, .text new] =
        .ok (.text (String.ofList (new.toList.intercalate pieces)))) ∧
    Builtin.replace.apply [.text text, .text "", .text new] =
      .ok (.text (String.ofList (new.toList.intercalate ([] :: text.toList.map ([·]) ++ [[]])))) ∧
    Builtin.replace.apply [.text text, .text old, .text old] = .ok (.text text) ∧
    ∀ rename : Char → Char, rename.Injective → ∀ result,
      Builtin.replace.apply [.text text, .text old, .text new] = .ok (.text result) →
      Builtin.replace.apply [.text (text.map rename), .text (old.map rename),
        .text (new.map rename)] = .ok (.text (result.map rename)) := by
  refine ⟨?_, ?_, ?_, ?_⟩
  · intro hold
    have hold : old.toList ≠ [] := by simpa using hold
    obtain ⟨pieces, h⟩ := exists_pieces hold text.toList
    refine ⟨pieces, h, fun others h' => h'.unique h, h.intercalate_eq, ?_⟩
    rw [apply, h.replace_eq hold]
  · rw [apply, String.toList_empty, replace_nil]
  · rw [apply, replace_self, String.ofList_toList]
  · intro rename hrename result hresult
    obtain rfl : String.ofList (Text.replace text.toList old.toList new.toList) = result := by
      simpa [apply] using hresult
    rw [apply, String.toList_map, String.toList_map, String.toList_map, replace_map hrename]
    simp [← String.toList_inj]

/-- What is put in is not searched: the result is again the old text. A point stands for itself. -/
theorem apply_replace_seam :
    "ab" ≠ "" ∧ Pieces "ab".toList "aabb".toList [['a'], ['b']] ∧
    Builtin.replace.apply [.text "aabb", .text "ab", .text ""] = .ok (.text "ab") ∧
    Builtin.replace.apply [.text "..bb", .text ".b", .text ""] = .ok (.text ".b") := by
  have hold : "ab" ≠ "" := by decide
  obtain ⟨pieces, h, hunique, -, hresult⟩ := (apply_replace "aabb" "ab" "").1 hold
  have hleft : Leftmost ['a', 'b'] ['a'] ['b'] := by
    intro before behind heq
    cases before with
    | nil => cases heq
    | cons => exact Nat.succ_le_succ (Nat.zero_le _)
  have hpieces : Pieces "ab".toList "aabb".toList [['a'], ['b']] := .cons hleft (.last (by decide))
  obtain rfl := hunique _ hpieces
  let rename : Char → Char := fun c => if c = 'a' then '.' else if c = '.' then 'a' else c
  have hrename : rename.Injective := by
    intro c d h
    grind
  have hrenamed := (apply_replace "aabb" "ab" "").2.2.2 rename hrename "ab" hresult
  refine ⟨hold, hpieces, hresult, ?_⟩
  have htext : "aabb".map rename = "..bb" := by simp [← String.toList_inj, rename]
  have hsearched : "ab".map rename = ".b" := by simp [← String.toList_inj, rename]
  have hput : "".map rename = "" := by simp [← String.toList_inj]
  rwa [htext, hsearched, hput] at hrenamed

end Calculator.Builtin
