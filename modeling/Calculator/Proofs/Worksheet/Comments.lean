import Calculator.Proofs.Token.Unclosed
import Calculator.Proofs.Worksheet.Run

/-!
# Comments in files

A comment begins at the first two semicolons of a line, also where they stand in a text. A line
without them is taken whole, and alone in a file it comes to what calculating it does. A line that
has them in a text is cut there: the text is not closed any more, and the file is refused
(`Worksheet.takesLine`).
-/

namespace Calculator

namespace SourceLine

open Cursor

/-- A line without the blanks around it, but with its comment. -/
def stripped (line : List Char) : String :=
  String.ofList (Text.trim line)

/-! ## Lines that are cut -/

/-- A source that is cut in one of its texts. -/
structure CutShort (limit : Nat) (source cut : String) (token : Token) (content : String) : Prop where
  text : token.lexeme = .text content
  marker : [';', ';'] <:+: content.toList
  /-- Up to the text the same is read. -/
  tokens : ∃ front ahead resume, Tokens.ofSource source = .after front (.cons token ahead) ∧
    Tokens.ofSource cut = .after front (.fail (.unclosedText token.position) resume)
  refused : ∃ problem, parse cut limit = .error problem
  /-- The text is to blame, if there is nothing wrong with the source itself. -/
  unclosed : ∀ e, parse source limit = .ok (some e) →
    parse cut limit = .error (.ofLexError cut (.unclosedText token.position))

theorem trim_opened {before : List Char}
    (hhead : (before ++ ['"']).head?.any Text.isBlank = false) (part : List Char) :
    ∃ kept, Text.trim (before ++ '"' :: part) = before ++ '"' :: kept ∧ kept <+: part := by
  have hfront : (before ++ '"' :: part).dropWhile Text.isBlank = before ++ '"' :: part := by
    cases before with
    | nil => rfl
    | cons c before => exact List.dropWhile_cons_of_neg (by simpa using hhead)
  have hquote : Text.isBlank '"' = false := by decide
  refine ⟨part.rdropWhile Text.isBlank, ?_, List.rdropWhile_prefix Text.isBlank part⟩
  rw [Text.trim, hfront, List.rdropWhile, List.reverse_append, List.reverse_cons,
    List.append_assoc, List.dropWhile_append]
  split
  · next hnil =>
    rw [List.isEmpty_iff] at hnil
    simp [hnil, hquote]
  · simp

theorem exists_parse_error {source : String} {error : LexError} (limit : Nat)
    (h : (Tokens.ofSource source).ending = .error error) :
    ∃ problem, parse source limit = .error problem := by
  cases hparse : parse source limit with
  | error problem => exact ⟨problem, rfl⟩
  | ok tree =>
    have hending : ∃ stop, (Tokens.ofSource source).ending = .ok stop := by
      cases tree with
      | none =>
        have hblank := @next_of_blank (.start source) (parse_eq_none_iff.mp hparse)
        rw [Tokens.ofSource, tokens_of_next_finish hblank]
        exact ⟨_, rfl⟩
      | some e => exact (Reader.derives_of_read (parse_eq_some_iff.mp hparse)).1
    obtain ⟨stop, hstop⟩ := hending
    rw [h] at hstop
    cases hstop

theorem parse_of_tokens {limit : Nat} {source cut : String} {front : List Token} {token : Token}
    {ahead : Tokens} {error : LexError} {resume : Cursor} {e : Expr}
    (hsource : Tokens.ofSource source = .after front (.cons token ahead))
    (hcut : Tokens.ofSource cut = .after front (.fail error resume))
    (hread : parse source limit = .ok (some e)) :
    parse cut limit = .error (.ofLexError cut error) := by
  have hcons : ∀ position, Tokens.ofSource source ≠ .finish position := by
    intro position
    rw [hsource]
    cases front <;> exact fun h => nomatch h
  have hfail : ∀ position, Tokens.after front (.fail error resume) ≠ .finish position := by
    intro position
    cases front <;> exact fun h => nomatch h
  obtain ⟨all, rest, last, htokens, hwalk, hhalts⟩ :=
    Reader.readAll_halts (some limit) hcons
  rw [← Expr.read, parse_eq_some_iff.mp hread] at hhalts
  cases hhalts with
  | finished position he =>
    obtain rfl : front ++ token :: ahead.toList = all := by
      have htoList := congrArg Tokens.toList (hsource.symm.trans htokens)
      simpa [Tokens.toList] using htoList
    rw [List.map_append, Reader.State.walk_append, Option.bind_eq_some_iff] at hwalk
    obtain ⟨mid, hfront, -⟩ := hwalk
    have herror := Reader.readAll_of_halts hfail hfront (.lexical error resume)
    rw [parse, Expr.read, hcut, herror]
    rfl

theorem exists_cutShort {source cut : String} {stop : Nat} (limit : Nat)
    (hhead : source.toList.head?.any Text.isBlank = false)
    (hending : (Tokens.ofSource source).ending = .ok stop)
    (hmarker : [';', ';'] <:+: source.toList) (hcut : cut.toList = clean source.toList) :
    ∃ token text, CutShort limit source cut token text := by
  obtain ⟨before, text, front, h⟩ := exists_markedText (.start source) hending hmarker
  obtain ⟨after, hrest⟩ : ∃ after, source.toList = before ++ '"' :: (text.toList ++ '"' :: after) :=
    h.rest
  have hquoted : (before ++ ['"']).head?.any Text.isBlank = false := by
    rw [hrest] at hhead
    cases before <;> exact hhead
  obtain ⟨kept, hkept, hpart⟩ := trim_opened hquoted (beforeComment text.toList)
  have hquote : '"' ∉ kept := fun hmem =>
    h.quote (mem_of_mem_beforeComment (hpart.subset hmem))
  obtain ⟨ahead, hread⟩ := h.read
  obtain ⟨resume, hunclosed⟩ := h.unclosed kept hquote
  have hcut : Tokens.ofSource cut =
      .after front (.fail (.unclosedText (0 + before.length)) resume) := by
    rw [Tokens.ofSource, Cursor.start, hcut, clean, hrest, h.kept,
      beforeComment_append_of_marker h.marker, hkept]
    exact hunclosed
  have hending : (Tokens.ofSource cut).ending = .error (.unclosedText (0 + before.length)) := by
    rw [hcut, Tokens.ending_after]
    rfl
  exact ⟨⟨.text text, 0 + before.length⟩, text, rfl, h.marker, ⟨front, ahead, resume, hread, hcut⟩,
    exists_parse_error limit hending, fun e he => parse_of_tokens hread hcut he⟩

theorem exists_taken_cut {line : List Char} {number stop : Nat} (limit : Nat)
    (hending : (Tokens.ofSource (stripped line)).ending = .ok stop)
    (hmarker : [';', ';'] <:+: line) :
    ∃ cut token text, listed? (line, number) = some (cut, (number : Int)) ∧
      CutShort limit (stripped line) cut token text := by
  have hsource : (stripped line).toList = Text.trim line := String.toList_ofList
  have hcut : (String.ofList (clean line)).toList = clean (stripped line).toList := by
    rw [hsource, clean_trim, String.toList_ofList]
  obtain ⟨token, text, h⟩ := exists_cutShort limit (hsource ▸ Text.head?_trim line) hending
    (hsource ▸ marker_trim.mpr hmarker) hcut
  have hne : clean line ≠ [] := by
    intro hnil
    obtain ⟨problem, hproblem⟩ := h.refused
    rw [hnil, parse_eq_none_iff.mpr rfl] at hproblem
    cases hproblem
  exact ⟨_, token, text, by rw [listed?, if_neg hne], h⟩

end SourceLine

namespace Worksheet

theorem addLines_refused {sheet : Worksheet} {lines : List (String × Int)} {line : String × Int}
    (hline : line ∈ lines) {problem : Problem}
    (hrefused : parse line.1 sheet.limits.reading = .error problem) :
    ∃ raised, (sheet.addLines lines).result = .error raised ∧
      (sheet.showTree = false → ∃ problem, raised = .problem problem) := by
  induction lines generalizing sheet with
  | nil => cases hline
  | cons first lines ih =>
    obtain ⟨source, number⟩ := first
    simp only [addLines, add]
    cases hparse : parse source sheet.limits.reading with
    | error problem => exact ⟨_, rfl, fun _ => ⟨problem, rfl⟩⟩
    | ok tree =>
      cases tree with
      | none => exact ⟨_, rfl, fun _ => ⟨.noInput, rfl⟩⟩
      | some e =>
        cases hshown : sheet.shown e with
        | error fault =>
          simp only [hshown]
          refine ⟨_, rfl, fun hhidden => ?_⟩
          rw [shown_of_hidden hhidden] at hshown
          cases hshown
        | ok outputs =>
          rcases List.mem_cons.mp hline with rfl | hline
          · rw [hparse] at hrefused
            cases hrefused
          · let next : Worksheet :=
              { sheet with queue := enqueue ⟨number, source, e⟩ sheet.queue }.release
            have hnext : next.limits = sheet.limits ∧ next.showTree = sheet.showTree := by
              simp only [next]
              rw [release_eq]
              exact ⟨rfl, rfl⟩
            obtain ⟨raised, hresult, hproblem⟩ := @ih next hline (hnext.1 ▸ hrefused)
            simp only [hshown]
            exact ⟨raised, by simp [Turn.andThen, Turn.after, next, hresult], hnext.2 ▸ hproblem⟩

def answers (sheet : Worksheet) (source : String) : Except Raised (List String) :=
  match calculate sheet.functions source sheet.limits with
  | .error problem => .error (.problem problem)
  | .ok none => .ok []
  | .ok (some value) =>
    match value.display sheet.precision with
    | .error fault => .error (.fault fault)
    | .ok text => .ok [text]

/-- What has been loaded from a file comes to what calculating a source does, unless its tree cannot be
shown. -/
structure Comes (sheet : Worksheet) (source : String) (number : Int) (loaded : Turn Worksheet Unit) :
    Prop where
  queue : ∀ e outputs, parse source sheet.limits.reading = .ok (some e) →
    sheet.shown e = .ok outputs → loaded.state.queue = [⟨number, source, e⟩]
  results : (∀ e, parse source sheet.limits.reading = .ok (some e) →
      ∃ outputs, sheet.shown e = .ok outputs) →
    let turn := loaded.andThen fun sheet _ => sheet.run
    turn.result.map (fun _ => turn.state.results) = sheet.answers source
  unshown : ∀ e fault, parse source sheet.limits.reading = .ok (some e) →
    sheet.shown e = .error fault → loaded.result = .error (.fault fault)

/-- How a worksheet takes a line of a file. -/
structure TakesLine (sheet : Worksheet) (path content : String) (line : List Char) (number : Nat) :
    Prop where
  /-- Without two semicolons the line counts as it stands. -/
  whole : ¬[';', ';'] <:+: line → SourceLine.listed? (line, number) =
    if Text.trim line = [] then none else some (SourceLine.stripped line, (number : Int))
  alone : ¬[';', ';'] <:+: line → SourceLine.numbered content = [(line, number)] →
    sheet.Comes (SourceLine.stripped line) number (sheet.load path (some content))
  /-- With two semicolons it is cut in a text, and the file is refused. -/
  cut : [';', ';'] <:+: line →
    (∃ cut token text, SourceLine.listed? (line, number) = some (cut, (number : Int)) ∧
      SourceLine.CutShort sheet.limits.reading (SourceLine.stripped line) cut token text) ∧
    ∃ raised, (sheet.load path (some content)).result = .error raised ∧
      (sheet.showTree = false → ∃ problem, raised = .problem problem)

theorem load_eq_addLines (sheet : Worksheet) (path content : String) :
    sheet.load path (some content) =
      ({ sheet with path := some path }.release).addLines (SourceLine.listed content) := by
  rw [← SourceLine.ofFile_eq_listed]
  rfl

theorem outcome_eq_answers {sheet : Worksheet} {entry : Entry}
    (h : parse entry.source sheet.limits.reading = .ok (some entry.expr)) :
    (sheet.outcome entry).map (fun text => [text]) = sheet.answers entry.source := by
  rw [answers, calculate_of_read h, outcome]
  cases reduce sheet.functions entry.source entry.expr sheet.limits.evaluation with
  | error problem => rfl
  | ok value =>
    simp only [Except.map]
    cases value.display sheet.precision <;> rfl

section

variable {sheet : Worksheet} {source : String} {number : Int}

theorem add_of_empty (hreleased : sheet.Released) (hqueue : sheet.queue = [])
    (hresults : sheet.results = []) {e : Expr} {outputs : List Output}
    (hparse : parse source sheet.limits.reading = .ok (some e))
    (hshown : sheet.shown e = .ok outputs) :
    sheet.add source number = ⟨outputs, sheet.holding [⟨number, source, e⟩] [], .ok ()⟩ := by
  have hkept := hreleased.holding [⟨number, source, e⟩] sheet.results
  rw [Released, holding] at hkept
  simp only [add, hparse, hshown, hqueue, enqueue]
  rw [holding, ← hresults, hkept]

theorem comes_nil (hqueue : sheet.queue = []) (hresults : sheet.results = [])
    (hparse : parse source sheet.limits.reading = .ok none) :
    sheet.Comes source number (sheet.addLines []) := by
  have hnone : calculate sheet.functions source sheet.limits = .ok none := by
    rw [calculate, hparse]
    rfl
  refine ⟨fun e outputs h => ?_, fun _ => ?_, fun e fault h => ?_⟩
  · rw [hparse] at h
    cases h
  · simp only [addLines, Turn.done_andThen, run, hqueue, runEntries_nil, answers, hnone]
    exact congrArg Except.ok hresults
  · rw [hparse] at h
    cases h

theorem comes_singleton (hreleased : sheet.Released) (hqueue : sheet.queue = [])
    (hresults : sheet.results = []) (hne : parse source sheet.limits.reading ≠ .ok none) :
    sheet.Comes source number (sheet.addLines [(source, number)]) := by
  cases hparse : parse source sheet.limits.reading with
  | error problem =>
    have hloaded : sheet.addLines [(source, number)] =
        .raise (sheet.register source number) (.problem problem) := by
      rw [addLines, add_of_unread number hparse, Turn.raise_andThen]
    refine ⟨fun e outputs h => ?_, fun _ => ?_, fun e fault h => ?_⟩
    · rw [hparse] at h
      cases h
    · rw [hloaded, answers, calculate_of_unread hparse, Turn.raise_andThen]
      rfl
    · rw [hparse] at h
      cases h
  | ok tree =>
    cases tree with
    | none => exact absurd hparse hne
    | some e =>
      have hloaded {outputs : List Output} (hshown : sheet.shown e = .ok outputs) :
          sheet.addLines [(source, number)] =
            ⟨outputs, sheet.holding [⟨number, source, e⟩] [], .ok ()⟩ := by
        simp only [addLines, add_of_empty hreleased hqueue hresults hparse hshown,
          Turn.ok_andThen, Turn.after, Turn.done, List.append_nil]
      refine ⟨fun e' outputs h hshown => ?_, fun hshows => ?_, fun e' fault h hunshown => ?_⟩
      · rw [hparse] at h
        cases h
        rw [hloaded hshown]
        rfl
      · obtain ⟨outputs, hshown⟩ := hshows e hparse
        rw [hloaded hshown, Turn.ok_andThen, run_single hreleased,
          ← @outcome_eq_answers sheet ⟨number, source, e⟩ hparse]
        cases sheet.outcome ⟨number, source, e⟩ <;> rfl
      · rw [hparse] at h
        cases h
        simp only [addLines, add, hparse, hunshown]
        rfl

end

/-- A line of a file that can be read token by token is taken as it stands, unless two semicolons
stand in it: these are part of a text, in which the line is cut. -/
theorem takesLine (reporter : Reporter) (precision : Precision) (showTree : Bool)
    (functions : Registry) (limits : NestingLimits) (path : String) {content : String}
    {line : List Char} {number stop : Nat}
    (hline : (line, number) ∈ SourceLine.numbered content)
    (hending : (Tokens.ofSource (SourceLine.stripped line)).ending = .ok stop) :
    TakesLine (.blank reporter precision showTree functions limits) path content line number := by
  have hwhole (hnone : ¬[';', ';'] <:+: line) : SourceLine.listed? (line, number) =
      if Text.trim line = [] then none else some (SourceLine.stripped line, (number : Int)) := by
    simp only [SourceLine.listed?, SourceLine.clean, SourceLine.beforeComment_eq_self hnone,
      SourceLine.stripped]
  refine ⟨hwhole, fun hnone halone => ?_, fun hmarker => ?_⟩
  · -- The line is all that is loaded, or nothing is when it is blank.
    let sheet : Worksheet :=
      { blank reporter precision showTree functions limits with path := some path }.release
    have hsource : (SourceLine.stripped line).toList = Text.trim line := String.toList_ofList
    rw [load_eq_addLines, SourceLine.listed_of_numbered halone, hwhole hnone]
    have hcomes : sheet.Comes (SourceLine.stripped line) number (sheet.addLines
        (if Text.trim line = [] then none else some (SourceLine.stripped line, ↑number)).toList) := by
      split
      · next htrim =>
        exact comes_nil rfl rfl (parse_eq_none_iff.mpr (by rw [hsource, htrim]; rfl))
      · next htrim =>
        refine comes_singleton (release_release _) rfl rfl fun hparse => htrim ?_
        rw [parse_eq_none_iff, hsource] at hparse
        exact Text.trim_eq_nil hparse
    exact ⟨hcomes.queue, hcomes.results, hcomes.unshown⟩
  · obtain ⟨cut, token, text, htaken, h⟩ := SourceLine.exists_taken_cut limits.reading hending hmarker
    obtain ⟨problem, hproblem⟩ := h.refused
    refine ⟨⟨cut, token, text, htaken, h⟩, ?_⟩
    rw [load_eq_addLines]
    exact addLines_refused (List.mem_filterMap.mpr ⟨_, hline, htaken⟩) hproblem

/-- The second line of a file, with two semicolons in its text. -/
theorem takesLine_text :
    let line := " len(\"a;;b\")".toList
    let content := "1 ;; one\n len(\"a;;b\")"
    let sheet := blank ⟨false, []⟩ (.places 4) false .builtins
    (line, 2) ∈ SourceLine.numbered content ∧
      (Tokens.ofSource (SourceLine.stripped line)).ending = .ok 11 ∧
      sheet.TakesLine "sums" content line 2 ∧
      SourceLine.listed? (line, 2) = some ("len(\"a", 2) ∧
      ∃ problem, (sheet.load "sums" (some content)).result = .error (.problem problem) := by
  intro line content sheet
  have hline : (line, 2) ∈ SourceLine.numbered content := by decide +kernel
  have hending : (Tokens.ofSource (SourceLine.stripped line)).ending = .ok 11 :=
    Reader.eq_ok_of_toOption (by decide +kernel)
  have htakes := takesLine ⟨false, []⟩ (.places 4) false .builtins .usual "sums" hline hending
  have hmarker : [';', ';'] <:+: line := by decide +kernel
  obtain ⟨-, raised, hresult, hproblem⟩ := htakes.cut hmarker
  obtain ⟨problem, rfl⟩ := hproblem rfl
  exact ⟨hline, hending, htakes, by decide +kernel, problem, hresult⟩

/-- A text has a value, but as the line of a file it is refused. -/
theorem takesLine_not_calculated :
    let line := "\"a;;b\""
    let cut := "\"a"
    let loaded := (blank ⟨false, []⟩ (.places 4) false .builtins).load "sums" (some line)
    (Tokens.ofSource line).lexemes = [.text "a;;b"] ∧ (Tokens.ofSource line).ending = .ok 6 ∧
      calculate .builtins line .usual = .ok (some (.text "a;;b")) ∧
      loaded.result = .error (.problem (.ofLexError cut (.unclosedText 0))) ∧
      loaded.state.queue.map Entry.source = [] := by
  intro line cut loaded
  refine ⟨by decide +kernel, Reader.eq_ok_of_toOption (by decide +kernel), ?_, ?_, ?_⟩
  · exact Reader.eq_ok_of_toOption (by decide +kernel)
  · exact Reader.eq_error_of_decide (by decide +kernel)
  · decide +kernel

end Worksheet

end Calculator
