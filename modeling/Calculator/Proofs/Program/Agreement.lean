import Calculator.Proofs.Console.History
import Calculator.Proofs.Nesting.Calculation
import Calculator.Proofs.Program.Arguments
import Calculator.Proofs.Program.File

/-!
# One line, three ways in

A line reaches the program as an argument, as the only line of a file, or from a user at the console.
`Program.Answer` says what comes of it, with no regard to the way, and `Program.answer_agrees` that the
three ways print this answer: a file adds the place of the line in front, and the console alone goes on
after a problem. Each way has its own limits on nesting, and the answer is the same as long as the line
does not tell these apart. Two dashes never reach the program as an argument, and signs in front of a
number can be too many for one way only (`Program.answer_agrees_not_always`).
-/

namespace Calculator

/-- A line that a file holds as it stands and the console takes for no command. -/
structure PlainLine (source : String) : Prop where
  nonempty : source ≠ ""
  noReturn : '\r' ∉ source.toList
  noFeed : '\n' ∉ source.toList
  noComment : ¬[';', ';'] <:+: source.toList
  head : source.toList.head?.any Text.isBlank = false
  last : source.toList.getLast?.any Text.isBlank = false
  word : String.ofList (source.toList.takeWhile Console.isCommandPart) ∉ ["help", "exit", "EOF"]
  question : source.toList.head? ≠ some '?'

namespace PlainLine

variable {source : String}

theorem listed (h : PlainLine source) {ending : String}
    (hending : ending ∈ ["", "\n", "\r\n", "\r"]) :
    SourceLine.listed (source ++ ending) = [(source, 1)] := by
  have hclean : SourceLine.clean source.toList = source.toList := by
    rw [SourceLine.clean, SourceLine.beforeComment_eq_self h.noComment,
      Text.trim_eq_self h.head h.last]
  exact SourceLine.listed_line h.nonempty h.noReturn h.noFeed hclean hending

theorem ofWords (h : PlainLine source) :
    Console.Command.ofWords source.toList = .evaluate source := by
  have hword := h.word
  unfold Console.Command.ofWords
  split <;> simp_all

theorem ofLine (h : PlainLine source) : Console.Command.ofLine source = .evaluate source := by
  have hquestion := h.question
  have hchars : source.toList ≠ [] := fun hnil => h.nonempty (String.toList_eq_nil_iff.mp hnil)
  unfold Console.Command.ofLine
  rw [Text.trim_eq_self h.head h.last]
  split
  · next hnil => exact absurd hnil hchars
  · next rest hrest => simp [hrest] at hquestion
  · exact h.ofWords

theorem parse_ne_none (h : PlainLine source) (limit : Nat) : parse source limit ≠ .ok none := by
  intro hparse
  have hblank := parse_eq_none_iff.mp hparse
  have hhead := h.head
  cases hchars : source.toList with
  | nil => exact h.nonempty (String.toList_eq_nil_iff.mp hchars)
  | cons c cs => simp_all

theorem signsBeforeOne (count : Nat) : PlainLine (signsBeforeOne count) := by
  cases count with
  | zero => constructor <;> decide
  | succ count =>
    have hchars : (Calculator.signsBeforeOne (count + 1)).toList =
        '-' :: (List.replicate count '-' ++ ['1']) := String.toList_ofList
    have hmem {c : Char} (hminus : c ≠ '-') (hone : c ≠ '1') :
        c ∉ (Calculator.signsBeforeOne (count + 1)).toList := by
      simp [hchars, hminus, hone]
    have hlast : (Calculator.signsBeforeOne (count + 1)).toList.getLast? = some '1' := by
      rw [hchars, ← List.cons_append, List.getLast?_concat]
    have hword : Console.isCommandPart '-' = false := by decide
    refine ⟨?_, hmem (by decide) (by decide), hmem (by decide) (by decide), ?_, ?_, ?_, ?_, ?_⟩
    · intro hempty
      rw [hempty] at hlast
      cases hlast
    · exact fun hcomment => hmem (by decide) (by decide) (hcomment.subset (List.mem_cons_self ..))
    · rw [hchars]
      rfl
    · rw [hlast]
      rfl
    · rw [hchars, List.takeWhile_cons_of_neg (by simp [hword])]
      decide
    · simp [hchars]

end PlainLine

namespace Program

/-! ## Answers -/

/-- What comes of a source that has been calculated: a problem, or a value and the text that it is
displayed as. -/
inductive Answer (precision : Precision) (source : String)
    (calculation : Except Problem (Option Value)) where
  | refused (problem : Problem) (h : calculation = .error problem)
  | solved (value : Value) (text : String) (calculated : calculation = .ok (some value))
      (displayed : value.display precision = .ok text)

namespace Answer

variable {precision : Precision} {source : String} {calculation : Except Problem (Option Value)}

def outputs (place : Option (String × Line)) : Answer precision source calculation → List Output
  | .refused problem _ => [.report place.toList problem]
  | .solved value text _ _ => Worksheet.nonFinite place source value ++ [.result text]

def status : Answer precision source calculation → Int
  | .refused .. => 1
  | .solved .. => 0

/-- How the place of a source shows: before a problem, and before a warning. -/
def placeSpans (place : Option (String × Line)) : Answer precision source calculation → List Span
  | .refused .. => [.plain (place.elim "" Output.lineText)]
  | .solved (.number x) .. => if x.isFinite then [] else [⟨.bold, Output.locationText place⟩]
  | .solved (.text _) .. => []

theorem linesText_toList {place : Option (String × Line)} (h : ∀ line ∈ place, line.2.text ≠ "") :
    Output.linesText place.toList = place.elim "" Output.lineText := by
  cases place with
  | none => rfl
  | some line => exact Output.linesText_singleton (h line rfl)

/-- The place shows in front of all else, which is the same wherever the source stands. -/
theorem exists_spans (answer : Answer precision source calculation) :
    ∃ rest, ∀ place, (∀ line ∈ place, line.2.text ≠ "") →
      (answer.outputs place).flatMap Output.spans = answer.placeSpans place ++ rest := by
  cases answer with
  | refused problem h =>
    refine ⟨(Output.report [] problem).spans.tail, fun place hplace => ?_⟩
    simp [outputs, placeSpans, Output.spans, linesText_toList hplace]
  | solved value text calculated displayed =>
    cases value with
    | text content => exact ⟨(Output.result text).spans, fun place _ => rfl⟩
    | number x =>
      cases hfinite : x.isFinite with
      | true =>
        refine ⟨(Output.result text).spans, fun place _ => ?_⟩
        simp [outputs, placeSpans, Worksheet.nonFinite, hfinite]
      | false =>
        refine ⟨[⟨.warning, "warning: "⟩,
          .plain (s!"'{source}' does not have a finite result" ++ "\n"), .plain (text ++ "\n")],
          fun place _ => ?_⟩
        simp [outputs, placeSpans, Worksheet.nonFinite, hfinite, Output.spans, Output.withDiagnosis,
          Problem.isDiagnosed, Problem.unlocated]

end Answer

instance {precision : Precision} {source : String} {calculation : Except Problem (Option Value)} :
    Subsingleton (Answer precision source calculation) where
  allEq
    | .refused _ h, .refused _ h' => by
      cases h.symm.trans h'
      rfl
    | .refused _ h, .solved _ _ calculated _ => by cases h.symm.trans calculated
    | .solved _ _ calculated _, .refused _ h => by cases h.symm.trans calculated
    | .solved _ _ calculated displayed, .solved _ _ calculated' displayed' => by
      cases calculated.symm.trans calculated'
      cases displayed.symm.trans displayed'
      rfl

theorem exists_answer {source : String} {count : Int} (limits : NestingLimits)
    (hsource : PlainLine source) (hcount : 0 ≤ count) (hformat : count < 2 ^ 31) :
    Nonempty (Answer (.places count) source (calculate .builtins source limits)) := by
  cases hparse : parse source limits.reading with
  | error problem => exact ⟨.refused problem (calculate_of_unread hparse)⟩
  | ok tree =>
    cases tree with
    | none => exact absurd hparse (hsource.parse_ne_none _)
    | some e =>
      have hcalculate := @calculate_of_read .builtins source limits e hparse
      cases hreduce : reduce .builtins source e limits.evaluation with
      | error problem =>
        rw [hreduce] at hcalculate
        exact ⟨.refused problem hcalculate⟩
      | ok value =>
        rw [hreduce] at hcalculate
        obtain ⟨text, htext⟩ := value.display_places hcount hformat
        exact ⟨.solved value text hcalculate htext⟩

/-! ## The three ways -/

section

variable {options : CommandLine.Options} {source : String} {limits : NestingLimits}
  {calculation : Except Problem (Option Value)}

theorem finish_refused (outputs : List Output) (problem : Problem) :
    finish ⟨outputs, sheet options limits, .error (.problem problem)⟩ =
      (outputs ++ [.report [] problem], .exit 1) := rfl

theorem evaluateOne_of_read (hshow : options.showTree = false) {e : Expr}
    (hparse : parse source limits.reading = .ok (some e)) :
    evaluateOne options source limits =
      match (sheet options limits).outcome ⟨1, source, e⟩ with
      | .error raised =>
        ⟨(sheet options limits).warnings ⟨1, source, e⟩, sheet options limits, .error raised⟩
      | .ok text =>
        ⟨(sheet options limits).warnings ⟨1, source, e⟩ ++ [.result text], sheet options limits,
          .ok ()⟩ := by
  have hreleased : (sheet options limits).Released := rfl
  have hadd : (sheet options limits).add source 1 =
      .done ((sheet options limits).holding [⟨1, source, e⟩] []) () :=
    @Worksheet.add_of_parse (sheet options limits) hreleased hshow ⟨1, source, e⟩ hparse
      (List.forall_mem_nil _)
  rw [evaluateOne, hadd, Turn.done_andThen, Worksheet.run_single hreleased]
  cases (sheet options limits).outcome ⟨1, source, e⟩ <;> rfl

theorem finish_evaluateOne (hshow : options.showTree = false)
    (hcalculation : calculate .builtins source limits = calculation)
    (answer : Answer options.precision source calculation) :
    finish (evaluateOne options source limits) = (answer.outputs none, .exit answer.status) := by
  cases answer with
  | refused problem h =>
    rcases calculate_eq_error (hcalculation.trans h) with hparse | ⟨e, hparse, hreduce⟩
    · have hadd : (sheet options limits).add source 1 = .raise _ (.problem problem) :=
        Worksheet.add_of_unread 1 hparse
      rw [evaluateOne, hadd, Turn.raise_andThen]
      exact finish_refused [] problem
    · have hreduce' : reduce (sheet options limits).functions source e
          (sheet options limits).limits.evaluation = .error problem := hreduce
      rw [evaluateOne_of_read hshow hparse, Worksheet.outcome_of_problem hreduce',
        Worksheet.warnings_of_problem hreduce']
      exact finish_refused [] problem
  | solved value text calculated displayed =>
    obtain ⟨e, hparse, hreduce⟩ := calculate_eq_some (hcalculation.trans calculated)
    have hreduce' : reduce (sheet options limits).functions source e
        (sheet options limits).limits.evaluation = .ok value := hreduce
    rw [evaluateOne_of_read hshow hparse, Worksheet.outcome_of_display hreduce' displayed,
      Worksheet.warnings_of_value hreduce']
    exact finish_ok _ _

theorem run_expression {settings : List String} (hsettings : CommandLine.read settings = .ok options)
    (hnone : options.expression = none) (hshow : options.showTree = false) (hdashes : source ≠ "--")
    (files : String → Option String) (input : List String)
    (hcalculation : calculate .builtins source limits = calculation)
    (answer : Answer options.precision source calculation) :
    run (("--expr=" ++ source) :: settings) files input limits =
      (answer.outputs none, .exit answer.status) := by
  rw [run, CommandLine.read_expression hsettings hnone hdashes]
  exact @finish_evaluateOne { options with expression := some source } source limits _ hshow
    hcalculation answer

theorem eq_of_singleton_eq {α : Type} {a b : α} {before after : List α}
    (h : [a] = before ++ b :: after) : before = [] ∧ b = a ∧ after = [] := by
  cases before with
  | nil =>
    cases h
    exact ⟨rfl, rfl, rfl⟩
  | cons c before => simp at h

theorem SolvedLine.warnings_eq {precision : Precision} (path : String)
    (solved : SolvedLine precision limits) : solved.warnings path =
      Worksheet.nonFinite (some (path, ⟨solved.source, solved.number⟩)) solved.source
        solved.value := by
  obtain ⟨_, _, value, _⟩ := solved
  cases value <;> rfl

theorem FileOutcome.eq_answer {path : String} {precision : Precision} {shown : List Output × Ending}
    (h : FileOutcome path precision limits [(source, 1)] shown)
    (hcalculation : calculate .builtins source limits = calculation) :
    ∃ answer : Answer precision source calculation,
      shown = (answer.outputs (some (path, ⟨source, 1⟩)), .exit answer.status) := by
  subst hcalculation
  cases h with
  | unread hlines hbefore hproblem =>
    obtain ⟨rfl, hline, rfl⟩ := eq_of_singleton_eq hlines
    cases hline
    exact ⟨.refused _ (calculate_of_unread hproblem), rfl⟩
  | stopped hread hlines hproblem =>
    obtain ⟨hbefore, hline, rfl⟩ := eq_of_singleton_eq hlines
    cases hline
    obtain rfl := List.map_eq_nil_iff.mp hbefore
    exact ⟨.refused _ hproblem, rfl⟩
  | finished hlines =>
    obtain ⟨⟨_, _, value, text, calculated, displayed⟩, rfl, hline⟩ :=
      List.map_eq_singleton_iff.mp hlines.symm
    cases hline
    refine ⟨.solved value text calculated displayed, ?_⟩
    rw [List.flatMap_singleton, SolvedLine.warnings_eq]
    rfl

theorem settle_reply {sheet : Worksheet} (hidle : sheet.Idle) (hshow : sheet.showTree = false)
    (hcalculation : calculate sheet.functions source sheet.limits = calculation)
    (answer : Answer sheet.precision source calculation) :
    (sheet.reply source).settle = ⟨answer.outputs none, .ok ()⟩ := by
  have htrees := Worksheet.trees_of_hidden hshow source
  cases answer with
  | refused problem h =>
    rw [Worksheet.reply_of_refused htrees (hcalculation.trans h)]
    rfl
  | solved value text calculated displayed =>
    rw [hidle.reply_of_text htrees (hcalculation.trans calculated) displayed]
    rfl

theorem reply_respond (hshow : options.showTree = false) (hsource : PlainLine source)
    (lines : List String) (hcalculation : calculate .builtins source limits = calculation)
    (answer : Answer options.precision source calculation) :
    (((console options limits).history lines).respond source).reply =
      ⟨answer.outputs none, .ok none⟩ := by
  have hnew : (console options limits).worksheet.Idle :=
    Console.idle_new rfl options.precision options.showTree .builtins limits
  have hnow := Console.worksheet_history hnew lines
  have hidle : ((console options limits).history lines).worksheet.Idle := hnow ▸ hnew
  rw [Console.respond, hsource.ofLine, Console.perform, Console.evaluate_of_idle hidle,
    Reply.turn_andThen, Reply.reply_turn, hnow, settle_reply hnew hshow hcalculation answer]
  rfl

end

/-! ## Agreement -/

/-- What comes of a line is the same wherever it is entered, unless its nesting is too deep for one way in
and not for another. The program prints it and ends, with status 1 after a problem; the console prints it
and goes on. What the program prints for a file has the place of the line in front, and differs in nothing
else. The line is not two dashes, which would not reach the program as an argument. -/
theorem answer_agrees {source ending path : String} {settings arguments : List String} {count : Int}
    {files : String → Option String} {limits fileLimits consoleLimits : NestingLimits}
    (input : List String) (hsource : PlainLine source) (hdashes : source ≠ "--")
    (hending : ending ∈ ["", "\n", "\r\n", "\r"])
    (hsettings : CommandLine.read settings = .ok ⟨none, none, .places count, false⟩)
    (harguments : CommandLine.read arguments = .ok ⟨none, some path, .places count, false⟩)
    (hfile : files path = some (source ++ ending)) (hcount : 0 ≤ count) (hformat : count < 2 ^ 31)
    (hfileNested : NestedAlike .builtins source limits fileLimits)
    (hconsoleNested : NestedAlike .builtins source limits consoleLimits) :
    let place : String × Line := (path, ⟨source, 1⟩)
    let options : CommandLine.Options := ⟨none, none, .places count, false⟩
    ∃ answer : Answer (.places count) source (calculate .builtins source limits),
      run (("--expr=" ++ source) :: settings) files input limits =
          (answer.outputs none, .exit answer.status) ∧
        run arguments files input fileLimits =
          (answer.outputs (some place), .exit answer.status) ∧
        (∀ lines, (((console options consoleLimits).history lines).respond source).reply =
          ⟨answer.outputs none, .ok none⟩) ∧
        ∃ rest, ∀ color,
          Output.renderAll color (answer.outputs none) =
              renderSpans color (answer.placeSpans none ++ rest) ∧
            Output.renderAll color (answer.outputs (some place)) =
              renderSpans color (answer.placeSpans (some place) ++ rest) := by
  intro place options
  obtain ⟨answer⟩ := exists_answer limits hsource hcount hformat
  obtain ⟨rest, hrest⟩ := answer.exists_spans
  refine ⟨answer, ?_, ?_, fun lines => ?_, rest, fun color => ⟨?_, ?_⟩⟩
  · exact run_expression hsettings rfl rfl hdashes files input rfl answer
  · have houtcome := @finish_evaluateFile ⟨none, some path, .places count, false⟩ fileLimits count path
      (source ++ ending) rfl rfl hcount hformat
    rw [hsource.listed hending] at houtcome
    obtain ⟨answer', hanswer⟩ := houtcome.eq_answer hfileNested.calculate_eq.symm
    rw [run, harguments]
    simp only [carryOut, hfile]
    rw [hanswer, Subsingleton.elim answer answer']
  · exact @reply_respond options source consoleLimits _ rfl hsource lines
      hconsoleNested.calculate_eq.symm answer
  · rw [Output.renderAll_eq, hrest none (by simp)]
  · rw [Output.renderAll_eq, hrest (some place) (by simp [place, hsource.nonempty])]

/-- A value that is not finite is shown with a warning, also where less nesting is allowed. -/
theorem answer_agrees_infinite :
    let files : String → Option String := fun path => if path = "sums" then some "1E400\n" else none
    let options : CommandLine.Options := ⟨none, none, .places 2, false⟩
    let deeper : NestingLimits := .inner .usual
    PlainLine "1E400" ∧ "1E400" ≠ "--" ∧ CommandLine.read ["-p2"] = .ok options ∧
      CommandLine.read ["sums", "-p2"] = .ok { options with file := some "sums" } ∧
      NestedAlike .builtins "1E400" .usual deeper ∧
      NestedAlike .builtins "1E400" .usual deeper.inner ∧
      ∃ answer : Answer (.places 2) "1E400" (calculate .builtins "1E400" .usual),
        run ["--expr=1E400", "-p2"] files [] = (answer.outputs none, .exit answer.status) ∧
          run ["sums", "-p2"] files [] deeper =
            (answer.outputs (some ("sums", ⟨"1E400", 1⟩)), .exit answer.status) ∧
          ((console options deeper.inner).respond "1E400").reply = ⟨answer.outputs none, .ok none⟩ := by
  intro files options deeper
  have hsource : PlainLine "1E400" := by constructor <;> decide
  have hsettings : CommandLine.read ["-p2"] = .ok options := by decide +kernel
  have harguments : CommandLine.read ["sums", "-p2"] = .ok ⟨none, some "sums", .places 2, false⟩ := by
    decide +kernel
  have hfile : files "sums" = some ("1E400" ++ "\n") := rfl
  let least : NestingLimits := ⟨1, 1, 1⟩
  have hread : ∀ limit ∈ [none, some 1],
      Expr.read limit "1E400" = .ok (some (.number (.infinite false))) := by
    have hspells : Cursor.SpellsAll "1E400".toList [.number "1E400" (.infinite false)] :=
      Tokens.spellsAll_ofSource.mpr
        ⟨by decide +kernel, 5, Reader.eq_ok_of_toOption (by decide +kernel)⟩
    have hd := Reader.Derives.term (.factor (.number "1E400" (.infinite false)))
    intro limit hlimit
    rw [Reader.read_of_derives limit hspells hd hd.reaches]
    rcases List.mem_pair.mp hlimit with rfl | rfl <;> rfl
  have hnested (limits : NestingLimits) (hreading : 1 ≤ min nestingLimit limits.reading)
      (hevaluation : 1 ≤ min nestingLimit limits.evaluation) :
      NestedAlike .builtins "1E400" .usual limits := by
    refine @NestedAlike.of_accepted _ _ _ _ least ?_ (fun e he => ?_) hreading hevaluation
    · rw [hread _ (by decide)]
      exact nofun
    · cases (hread none (by decide)).symm.trans he
      simp [Expr.evaluate, tooDeepAt, least]
  obtain ⟨answer, hone, hlisted, hconsole, -⟩ := answer_agrees [] hsource (by decide) (by decide)
    hsettings harguments hfile (by decide) (by decide) (hnested deeper (by decide) (by decide))
    (hnested deeper.inner (by decide) (by decide))
  exact ⟨hsource, by decide, hsettings, harguments, hnested _ (by decide) (by decide),
    hnested _ (by decide) (by decide), answer, hone, hlisted, hconsole []⟩

/-- Two dashes behind the switch stand for no value, so the program has nothing to read where the console
reads them. And whatever nesting is allowed, one way in that allows more has a result for signs that are
too many for the other. -/
theorem answer_agrees_not_always :
    let options : CommandLine.Options := ⟨none, none, .places 4, false⟩
    let one := Output.renderAll false (run ["--expr=--"] (fun _ => none) []).1
    let told := Output.renderAll false ((console options).respond "--").outputs
    CommandLine.read [] = .ok options ∧
      (PlainLine "--" ∧ one = "error: no input provided\n" ∧
        told = "error: unexpected end of expression\n  --\n    ^\n" ∧ one ≠ told) ∧
      ∀ limits larger : NestingLimits, limits.reading < larger.reading →
        limits.reading < larger.evaluation →
        let source := signsBeforeOne limits.reading
        PlainLine source ∧ source ≠ "--" ∧
          (run ["--expr=" ++ source] (fun _ => none) [] limits).1 ≠
            ((console options larger).respond source).outputs := by
  intro options one told
  have hsource : PlainLine "--" := by constructor <;> decide
  have hone : one = "error: no input provided\n" := by decide +kernel
  have htold : told = "error: unexpected end of expression\n  --\n    ^\n" := by decide +kernel
  refine ⟨rfl, ⟨hsource, hone, htold, by rw [hone, htold]; decide⟩, ?_⟩
  intro limits larger hreading hevaluation source
  have hplain : PlainLine source := .signsBeforeOne _
  have hdashes : source ≠ "--" := fun h => by
    have hlast := congrArg (·.toList.getLast?) h
    simp [source, signsBeforeOne] at hlast
  obtain ⟨hrefused, value, hsolved⟩ := calculate_signs .builtins hreading hevaluation
  obtain ⟨text, htext⟩ : ∃ text, value.display (.places 4) = .ok text :=
    value.display_places (by decide) (by decide)
  have hrun : run ["--expr=" ++ source] (fun _ => none) [] limits = _ :=
    @run_expression options source limits _ [] rfl rfl rfl hdashes _ [] hrefused (.refused _ rfl)
  have hreply := @reply_respond options source larger _ rfl hplain [] hsolved
    (.solved value text rfl htext)
  have houtputs : ((console options larger).respond source).outputs =
      Worksheet.nonFinite none source value ++ [.result text] := congrArg Reply.outputs hreply
  refine ⟨hplain, hdashes, fun h => ?_⟩
  rw [hrun, houtputs] at h
  have hlast := congrArg List.getLast? h
  simp [Answer.outputs] at hlast

end Program

end Calculator
