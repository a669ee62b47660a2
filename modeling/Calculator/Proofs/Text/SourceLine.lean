import Mathlib.Data.List.DropRight
import Calculator.Proofs.Expr.Outcome
import Calculator.Calculation
import Calculator.SourceLine

/-!
# The expressions of a file

`SourceLine.listed` says which lines of a file count, each with its number among all lines; `ofFile`
gives the same (`ofFile_eq_listed`). The numbers ascend, and no line that counts is blank.
-/

namespace Calculator

theorem Text.not_isBlank_of_head? {cs : List Char} {c : Char}
    (h : (cs.dropWhile isBlank).head? = some c) : isBlank c = false := by
  have hhead := List.head?_dropWhile_not isBlank cs
  rw [h] at hhead
  exact hhead

theorem Text.not_isBlank_of_getLast? {cs : List Char} {c : Char}
    (h : (trim cs).getLast? = some c) : isBlank c = false := by
  rw [trim, List.getLast?_reverse] at h
  exact not_isBlank_of_head? h

theorem Text.trim_eq_nil {cs : List Char} (h : (trim cs).all isBlank = true) : trim cs = [] := by
  cases hlast : (trim cs).getLast? with
  | none => exact List.getLast?_eq_none_iff.mp hlast
  | some c =>
    have hblank := List.all_eq_true.mp h c (List.mem_of_getLast? hlast)
    rw [not_isBlank_of_getLast? hlast] at hblank
    cases hblank

theorem Text.isBlank_of_trim {cs : List Char} (h : trim cs = []) : ∀ c ∈ cs, isBlank c = true := by
  rw [trim, List.reverse_eq_nil_iff, List.dropWhile_eq_nil_iff] at h
  refine List.dropWhile_eq_nil_iff.mp ?_
  cases hfront : cs.dropWhile isBlank with
  | nil => rfl
  | cons c rest =>
    have hblank := h c (by simp [hfront])
    rw [not_isBlank_of_head? (by rw [hfront]; rfl)] at hblank
    cases hblank

theorem Text.trim_eq_self {cs : List Char} (hhead : cs.head?.any isBlank = false)
    (hlast : cs.getLast?.any isBlank = false) : trim cs = cs := by
  have hfront : ∀ {cs : List Char}, cs.head?.any isBlank = false → cs.dropWhile isBlank = cs := by
    intro cs h
    cases cs with
    | nil => rfl
    | cons c cs =>
      have hc : isBlank c = false := h
      rw [List.dropWhile_cons, hc]
      rfl
  have hback : cs.reverse.head?.any isBlank = false := by rwa [List.head?_reverse]
  rw [trim, hfront hhead, hfront hback, List.reverse_reverse]

theorem Text.head?_trim (cs : List Char) : (trim cs).head?.any isBlank = false := by
  have hprefix : trim cs <+: cs.dropWhile isBlank := List.rdropWhile_prefix isBlank _
  have hhead := head?_dropWhile_any isBlank cs
  obtain ⟨back, hback⟩ := hprefix
  cases htrim : trim cs with
  | nil => rfl
  | cons c rest =>
    rw [← hback, htrim] at hhead
    exact hhead

theorem Text.trim_append {front back : List Char} (hfront : front.all isBlank = true)
    (hback : back.all isBlank = true) (cs : List Char) : trim (front ++ (cs ++ back)) = trim cs := by
  rw [trim, List.dropWhile_append_of_pos (List.all_eq_true.mp hfront), trim,
    List.dropWhile_append]
  split
  · next hnil =>
    rw [List.isEmpty_iff] at hnil
    rw [hnil, List.dropWhile_eq_nil_iff.mpr (List.all_eq_true.mp hback)]
  · have hback' : ∀ c ∈ back.reverse, isBlank c = true := by
      simpa using List.all_eq_true.mp hback
    rw [List.reverse_append, List.dropWhile_append_of_pos hback']

theorem Text.exists_margins (cs : List Char) :
    ∃ front back, front.all isBlank = true ∧ back.all isBlank = true ∧
      cs = front ++ (trim cs ++ back) := by
  refine ⟨cs.takeWhile isBlank, ((cs.dropWhile isBlank).reverse.takeWhile isBlank).reverse,
    List.all_takeWhile, by simp, ?_⟩
  rw [trim, ← List.reverse_append, List.takeWhile_append_dropWhile, List.reverse_reverse,
    List.takeWhile_append_dropWhile]

/-! ## A single line -/

section

variable {cs : List Char}

theorem Text.unifyLineEnds_append (h : '\r' ∉ cs) (rest : List Char) :
    unifyLineEnds (cs ++ rest) = cs ++ unifyLineEnds rest := by
  induction cs with
  | nil => rfl
  | cons c cs ih =>
    obtain ⟨hc, hcs⟩ := List.ne_and_not_mem_of_not_mem_cons h
    rw [List.cons_append, unifyLineEnds, ih hcs, List.cons_append]
    · exact fun _ h => absurd h.symm hc
    · exact fun h => hc h.symm

theorem Text.lines_append (h : '\n' ∉ cs) (rest : List Char) :
    lines (cs ++ '\n' :: rest) = cs :: lines rest := by
  induction cs with
  | nil => rfl
  | cons c cs ih =>
    obtain ⟨hc, hcs⟩ := List.ne_and_not_mem_of_not_mem_cons h
    rw [List.cons_append, lines, ih hcs, consLine]
    exact fun h => hc h.symm

theorem Text.lines_eq_singleton (h : '\n' ∉ cs) (hne : cs ≠ []) : lines cs = [cs] := by
  induction cs with
  | nil => exact absurd rfl hne
  | cons c cs ih =>
    obtain ⟨hc, hcs⟩ := List.ne_and_not_mem_of_not_mem_cons h
    rw [lines]
    · cases cs with
      | nil => rfl
      | cons c' cs => rw [ih hcs (List.cons_ne_nil c' cs), consLine]
    · exact fun h => hc h.symm

theorem SourceLine.beforeComment_eq_self (h : ¬[';', ';'] <:+: cs) : beforeComment cs = cs := by
  induction cs with
  | nil => rfl
  | cons c cs ih =>
    rw [beforeComment, ih fun hpart => h (hpart.trans (List.suffix_cons c cs).isInfix)]
    rintro rest rfl rfl
    exact h (List.prefix_append [';', ';'] rest).isInfix

theorem SourceLine.marker_of_cons {c : Char} (h : [';', ';'] <:+: c :: cs)
    (hc : ∀ rest, c = ';' → cs = ';' :: rest → False) : [';', ';'] <:+: cs := by
  rcases List.infix_cons_iff.mp h with ⟨rest, hrest⟩ | htail
  · cases hrest
    exact absurd rfl (hc rest rfl)
  · exact htail

/-- A comment begins at the first two semicolons in a row, or there are none. -/
theorem SourceLine.beforeComment_cases (cs : List Char) :
    (¬[';', ';'] <:+: cs ∧ beforeComment cs = cs) ∨
      ∃ comment, cs = beforeComment cs ++ ';' :: ';' :: comment := by
  induction cs using beforeComment.induct with
  | case1 => exact .inl ⟨by simp, rfl⟩
  | case2 comment => exact .inr ⟨comment, rfl⟩
  | case3 c cs hc ih =>
    rw [beforeComment.eq_3 c cs hc]
    rcases ih with ⟨hnone, hkept⟩ | ⟨comment, hcomment⟩
    · exact .inl ⟨fun hmarker => hnone (marker_of_cons hmarker hc), by rw [hkept]⟩
    · exact .inr ⟨comment, congrArg (c :: ·) hcomment⟩

theorem SourceLine.mem_of_mem_beforeComment {c : Char} (h : c ∈ beforeComment cs) : c ∈ cs := by
  rcases beforeComment_cases cs with ⟨-, hkept⟩ | ⟨comment, hcomment⟩
  · rwa [hkept] at h
  · rw [hcomment]
    exact List.mem_append_left _ h

theorem SourceLine.beforeComment_eq_self_iff :
    beforeComment cs = cs ↔ ¬[';', ';'] <:+: cs := by
  refine ⟨fun hkept => ?_, beforeComment_eq_self⟩
  rcases beforeComment_cases cs with ⟨hnone, -⟩ | ⟨comment, hcomment⟩
  · exact hnone
  · rw [hkept] at hcomment
    simpa using congrArg List.length hcomment

theorem SourceLine.beforeComment_append_of_marker (h : [';', ';'] <:+: cs) (rest : List Char) :
    beforeComment (cs ++ rest) = beforeComment cs := by
  induction cs using beforeComment.induct with
  | case1 => simp at h
  | case2 comment => rfl
  | case3 c cs hc ih =>
    have htail := marker_of_cons h hc
    rw [List.cons_append, beforeComment.eq_3 c cs hc, ← ih htail, beforeComment.eq_3]
    intro tail hsemicolon happ
    cases cs with
    | nil => simp at htail
    | cons d cs =>
      cases happ
      exact hc cs hsemicolon rfl

theorem SourceLine.beforeComment_append_cons (h : ¬[';', ';'] <:+: cs) {c : Char} (hc : c ≠ ';')
    (rest : List Char) : beforeComment (cs ++ c :: rest) = cs ++ c :: beforeComment rest := by
  induction cs with
  | nil => rw [List.nil_append, beforeComment.eq_3 c rest fun _ h _ => hc h, List.nil_append]
  | cons d cs ih =>
    have htail := ih fun hpart => h (hpart.trans (List.suffix_cons d cs).isInfix)
    rw [List.cons_append, beforeComment.eq_3, htail, List.cons_append]
    intro tail hd happ
    cases cs with
    | nil => exact hc (List.cons.inj happ).1
    | cons e cs =>
      cases hd
      obtain ⟨rfl, -⟩ := List.cons.inj happ
      exact h (List.prefix_append [';', ';'] cs).isInfix

theorem SourceLine.beforeComment_append (h : ';' ∉ cs) (rest : List Char) :
    beforeComment (cs ++ rest) = cs ++ beforeComment rest := by
  induction cs with
  | nil => rfl
  | cons c cs ih =>
    obtain ⟨hc, hcs⟩ := List.ne_and_not_mem_of_not_mem_cons h
    rw [List.cons_append, beforeComment, ih hcs, List.cons_append]
    exact fun _ h => absurd h.symm hc

theorem SourceLine.beforeComment_append_of_none (h : ¬[';', ';'] <:+: cs) {rest : List Char}
    (hrest : ';' ∉ rest) : beforeComment (cs ++ rest) = cs ++ rest := by
  cases rest with
  | nil => rw [List.append_nil, beforeComment_eq_self h]
  | cons c rest =>
    obtain ⟨hc, hrest⟩ := List.ne_and_not_mem_of_not_mem_cons hrest
    have hkept := beforeComment_append hrest []
    rw [List.append_nil, beforeComment, List.append_nil] at hkept
    rw [beforeComment_append_cons h hc.symm, hkept]

theorem SourceLine.clean_trim (cs : List Char) : clean (Text.trim cs) = clean cs := by
  obtain ⟨front, back, hfront, hback, hcs⟩ := Text.exists_margins cs
  have hblank : Text.isBlank ';' = false := by decide
  have hline : beforeComment cs = front ++ beforeComment (Text.trim cs ++ back) := calc
    beforeComment cs = beforeComment (front ++ (Text.trim cs ++ back)) := congrArg _ hcs
    _ = front ++ beforeComment (Text.trim cs ++ back) :=
      beforeComment_append (Text.notMem_of_all hfront hblank) _
  rw [clean, clean, hline]
  by_cases hmarker : [';', ';'] <:+: Text.trim cs
  · have htrim := @Text.trim_append front [] hfront rfl (beforeComment (Text.trim cs))
    rw [beforeComment_append_of_marker hmarker, ← htrim, List.append_nil]
  · rw [beforeComment_append_of_none hmarker (Text.notMem_of_all hback hblank),
      Text.trim_append hfront hback, beforeComment_eq_self hmarker]

theorem SourceLine.marker_trim : [';', ';'] <:+: Text.trim cs ↔ [';', ';'] <:+: cs := by
  obtain ⟨front, back, hfront, hback, hcs⟩ := Text.exists_margins cs
  have hblank : Text.isBlank ';' = false := by decide
  refine ⟨fun hmarker => ?_, fun hmarker => ?_⟩
  · rw [hcs]
    exact hmarker.trans ⟨front, back, List.append_assoc ..⟩
  · by_contra hnone
    refine beforeComment_eq_self_iff.mp ?_ hmarker
    rw [hcs, beforeComment_append (Text.notMem_of_all hfront hblank),
      beforeComment_append_of_none hnone (Text.notMem_of_all hback hblank)]

end

/-! ## Blank lines -/

theorem parse_eq_none_iff {source : String} {limit : Nat} :
    parse source limit = .ok none ↔ source.toList.all Text.isBlank = true := by
  rw [← Reader.read_eq_none_iff (some limit), parse]
  split
  · next e he => simp [he]
  · next error he => simp [he]

theorem parse_eq_some_iff {source : String} {limit : Nat} {e : Expr} :
    parse source limit = .ok (some e) ↔ Expr.read (some limit) source = .ok (some e) := by
  rw [parse]
  split <;> simp_all

namespace SourceLine

def listed? (line : List Char × Nat) : Option (String × Int) :=
  if clean line.1 = [] then none else some (String.ofList (clean line.1), line.2)

def numbered (content : String) : List (List Char × Nat) :=
  (Text.lines (Text.unifyLineEnds content.toList)).zipIdx 1

/-- The lines of a file that hold an expression. All lines are numbered, from 1. -/
def listed (content : String) : List (String × Int) :=
  ((Text.lines (Text.unifyLineEnds content.toList)).zipIdx 1).filterMap listed?

theorem listed?_eq_some {line : List Char × Nat} {source : String} {number : Int}
    (h : listed? line = some (source, number)) :
    clean line.1 ≠ [] ∧ source = String.ofList (clean line.1) ∧ number = line.2 := by
  unfold listed? at h
  split at h
  · cases h
  · next hne =>
    cases h
    exact ⟨hne, rfl, rfl⟩

theorem filter_numbered (lines : List (List Char)) (number : Nat) :
    ((ofFile.numbered number lines).filter fun (line, _) => !line.isEmpty) =
      (lines.zipIdx number).filterMap listed? := by
  induction lines generalizing number with
  | nil => rfl
  | cons line lines ih =>
    have ih := ih (number + 1)
    rw [Int.natCast_add, Int.natCast_one] at ih
    rw [ofFile.numbered, List.filter_cons, ih, List.zipIdx_cons, List.filterMap_cons, listed?]
    by_cases hline : clean line = [] <;> simp [hline]

theorem ofFile_eq_listed (content : String) : ofFile content = listed content :=
  filter_numbered _ 1

example : listed "1 / 3 ;; a third\n\n\"a\" + 1\n" = [("1 / 3", 1), ("\"a\" + 1", 3)] := by
  decide +kernel

theorem listed_of_numbered {content : String} {line : List Char × Nat}
    (h : numbered content = [line]) : listed content = (listed? line).toList := by
  change (numbered content).filterMap listed? = _
  rw [h, List.filterMap_cons]
  cases listed? line <;> rfl

theorem numbered_single {source ending : String} (hne : source ≠ "")
    (hreturn : '\r' ∉ source.toList) (hfeed : '\n' ∉ source.toList)
    (hending : ending ∈ ["", "\n", "\r\n", "\r"]) :
    numbered (source ++ ending) = [(source.toList, 1)] := by
  have hlines : Text.lines (Text.unifyLineEnds (source ++ ending).toList) = [source.toList] := by
    rw [String.toList_append, Text.unifyLineEnds_append hreturn]
    simp only [List.mem_cons, List.not_mem_nil, or_false] at hending
    rcases hending with rfl | hending
    · simpa [Text.unifyLineEnds] using Text.lines_eq_singleton hfeed (by simpa using hne)
    · have hunified : Text.unifyLineEnds ending.toList = ['\n'] := by
        rcases hending with rfl | rfl | rfl <;> decide
      rw [hunified, Text.lines_append hfeed, Text.lines]
  rw [numbered, hlines]
  rfl

theorem listed_line {source ending : String} (hne : source ≠ "") (hreturn : '\r' ∉ source.toList)
    (hfeed : '\n' ∉ source.toList) (hclean : clean source.toList = source.toList)
    (hending : ending ∈ ["", "\n", "\r\n", "\r"]) : listed (source ++ ending) = [(source, 1)] := by
  have hchars : source.toList ≠ [] := fun h => hne (String.toList_eq_nil_iff.mp h)
  rw [listed_of_numbered (numbered_single hne hreturn hfeed hending)]
  simp [listed?, hclean, hchars]

theorem pairwise_listed (content : String) :
    (listed content).Pairwise fun line line' => line.2 < line'.2 := by
  have hnumbers : ∀ lines : List (List Char),
      (lines.zipIdx 1).Pairwise fun line line' => line.2 < line'.2 := by
    intro lines
    have hrange : (List.range' 1 lines.length).Pairwise (· < ·) := List.pairwise_lt_range'
    rwa [← List.zipIdx_map_snd 1 lines, List.pairwise_map] at hrange
  refine List.Pairwise.filterMap listed? ?_ (hnumbers _)
  rintro line line' hlt ⟨source, number⟩ hlisted ⟨source', number'⟩ hlisted'
  obtain ⟨-, -, rfl⟩ := listed?_eq_some hlisted
  obtain ⟨-, -, rfl⟩ := listed?_eq_some hlisted'
  exact Int.ofNat_lt.mpr hlt

/-- A line that counts is no blank, so it is an expression or is refused. -/
theorem parse_listed {content source : String} {number : Int}
    (h : (source, number) ∈ listed content) :
    source ≠ "" ∧ ∀ limit, parse source limit ≠ .ok none := by
  obtain ⟨⟨line, n⟩, -, hlisted⟩ := List.mem_filterMap.mp h
  obtain ⟨hclean, rfl, rfl⟩ := listed?_eq_some hlisted
  have hne : String.ofList (clean line) ≠ "" := by simpa using hclean
  refine ⟨hne, fun limit hparse => hclean ?_⟩
  have hblank := parse_eq_none_iff.mp hparse
  rw [String.toList_ofList] at hblank
  exact Text.trim_eq_nil hblank

end SourceLine

end Calculator
