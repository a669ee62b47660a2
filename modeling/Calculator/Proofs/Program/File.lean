import Calculator.Program
import Calculator.Proofs.Text.SourceLine
import Calculator.Proofs.Value.Display
import Calculator.Proofs.Worksheet.Load

/-!
# Evaluating a file

A file is read as a whole before any of its lines is evaluated. A line that cannot be read therefore
shows alone, while one that cannot be evaluated shows after what the lines before it have to show.
`Program.FileOutcome` lists these cases, and `Program.run_file` finds every file in one of them.
-/

namespace Calculator

namespace Program

/-! ## The lines of a file -/

/-- A line of a file with its value, and the text that is displayed for it. -/
structure SolvedLine (precision : Precision) (limits : NestingLimits) where
  source : String
  number : Int
  value : Value
  text : String
  calculated : calculate .builtins source limits = .ok (some value)
  displayed : value.display precision = .ok text

namespace SolvedLine

variable {precision : Precision} {limits : NestingLimits}

def line (solved : SolvedLine precision limits) : String × Int :=
  (solved.source, solved.number)

def result (solved : SolvedLine precision limits) : Output :=
  .result solved.text

def warnings (path : String) (solved : SolvedLine precision limits) : List Output :=
  match solved.value with
  | .number x =>
    if x.isFinite then []
    else
      [.warning (some (path, ⟨solved.source, solved.number⟩))
        (.unlocated .general s!"'{solved.source}' does not have a finite result")]
  | .text _ => []

end SolvedLine

/-- What the program prints for the expressions of a file, and how it ends. -/
inductive FileOutcome (path : String) (precision : Precision) (limits : NestingLimits)
    (lines : List (String × Int)) : List Output × Ending → Prop
  /-- The first line that cannot be read. -/
  | unread {before after : List (String × Int)} {source : String} {number : Int}
      {problem : Problem} : lines = before ++ (source, number) :: after →
      (∀ line ∈ before, ∃ e, parse line.1 limits.reading = .ok (some e)) →
      parse source limits.reading = .error problem →
      FileOutcome path precision limits lines
        ([.report [(path, ⟨source, number⟩)] problem], .exit 1)
  /-- All lines can be read, but one of them has no value. -/
  | stopped {before : List (SolvedLine precision limits)} {after : List (String × Int)}
      {source : String} {number : Int} {problem : Problem} :
      (∀ line ∈ lines, ∃ e, parse line.1 limits.reading = .ok (some e)) →
      lines = before.map SolvedLine.line ++ (source, number) :: after →
      calculate .builtins source limits = .error problem →
      FileOutcome path precision limits lines
        (before.flatMap (SolvedLine.warnings path) ++ before.map SolvedLine.result ++
          [.report [(path, ⟨source, number⟩)] problem], .exit 1)
  /-- All lines have a value. -/
  | finished {solved : List (SolvedLine precision limits)} : lines = solved.map SolvedLine.line →
      FileOutcome path precision limits lines
        (solved.flatMap (SolvedLine.warnings path) ++ solved.map SolvedLine.result, .exit 0)

/-! ## The worksheet of a file -/

def fileSheet (options : CommandLine.Options) (limits : NestingLimits) (path : String) :
    Worksheet :=
  ⟨⟨true, [(path, none)]⟩, some path, options.precision, options.showTree, .builtins, limits, [],
    []⟩

section

variable (options : CommandLine.Options) (limits : NestingLimits) (path : String)

theorem load_eq (content : String) : (sheet options limits).load path (some content) =
    (fileSheet options limits path).addLines (SourceLine.ofFile content) := rfl

theorem fileSheet_released : (fileSheet options limits path).Released := by
  simp [Worksheet.Released, fileSheet, Worksheet.release, Worksheet.mapTrace, Trace.release,
    Trace.set]

theorem reporter_register (source : String) (number : Int) :
    ((fileSheet options limits path).register source number).reporter =
      ⟨true, [(path, some ⟨source, number⟩)]⟩ := by
  simp [fileSheet, Worksheet.register, Worksheet.mapTrace, Trace.register, Trace.set]

theorem finish_problem (source : String) (number : Int) (queue : List Entry)
    (results : List String) (outputs : List Output) (problem : Problem) :
    finish ⟨outputs, ((fileSheet options limits path).register source number).holding queue results,
        .error (.problem problem)⟩ =
      (outputs ++ [.report [(path, ⟨source, number⟩)] problem], .exit 1) := by
  have hreporter := reporter_register options limits path source number
  simp only [finish, Worksheet.settle, Worksheet.holding, hreporter, Reporter.settle,
    Reporter.report]
  rfl

theorem finish_ok (outputs : List Output) (sheet : Worksheet) :
    finish ⟨outputs, sheet, .ok ()⟩ = (outputs, .exit 0) := by
  simp [finish, Worksheet.settle, Reporter.settle, Turn.done, Turn.mapState, Turn.after, ending]

end

/-! ## Values and texts -/

section

variable {options : CommandLine.Options} {limits : NestingLimits} {path : String} {entry : Entry}

theorem calculate_of_parse (htree : parse entry.source limits.reading = .ok (some entry.expr))
    {reduced : Except Problem Value}
    (h : reduce .builtins entry.source entry.expr limits.evaluation = reduced) :
    calculate .builtins entry.source limits = reduced.map some := by
  rw [calculate_of_read htree, h]

theorem exists_solved_of_outcome
    (htree : parse entry.source limits.reading = .ok (some entry.expr)) {text : String}
    (h : (fileSheet options limits path).outcome entry = .ok text) :
    ∃ solved : SolvedLine options.precision limits, solved.line = entry.label ∧ solved.text = text ∧
      solved.warnings path = (fileSheet options limits path).warnings entry := by
  obtain ⟨value, hvalue, htext⟩ := Worksheet.value_of_outcome h
  have hcalculate := calculate_of_parse htree hvalue
  refine ⟨⟨entry.source, entry.line, value, text, hcalculate, htext⟩, rfl, rfl, ?_⟩
  simp only [Worksheet.warnings, hvalue]
  cases value with
  | text content => rfl
  | number x =>
    simp only [SolvedLine.warnings, Worksheet.nonFiniteWarning, Reporter.warn, reporter_register]
    rfl

theorem exists_solved {entries : List Entry} {texts : List String}
    (htrees : ∀ entry ∈ entries, parse entry.source limits.reading = .ok (some entry.expr))
    (h : entries.map (fileSheet options limits path).outcome = texts.map .ok) :
    ∃ solved : List (SolvedLine options.precision limits),
      solved.map SolvedLine.line = entries.map Entry.label ∧
      solved.map SolvedLine.result = texts.map .result ∧
      solved.flatMap (SolvedLine.warnings path) =
        entries.flatMap (fileSheet options limits path).warnings := by
  induction entries generalizing texts with
  | nil =>
    obtain rfl : texts = [] := by simpa using h.symm
    exact ⟨[], rfl, rfl, rfl⟩
  | cons entry entries ih =>
    obtain ⟨htree, htrees⟩ := List.forall_mem_cons.mp htrees
    cases texts with
    | nil => cases h
    | cons text texts =>
      rw [List.map_cons, List.map_cons, List.cons.injEq] at h
      obtain ⟨first, hline, htext, hwarnings⟩ := exists_solved_of_outcome htree h.1
      obtain ⟨solved, hlines, hresults, hrest⟩ := ih htrees h.2
      refine ⟨first :: solved, ?_, ?_, ?_⟩
      · rw [List.map_cons, List.map_cons, hline, hlines]
      · rw [List.map_cons, List.map_cons, SolvedLine.result, htext, hresults]
      · rw [List.flatMap_cons, List.flatMap_cons, hwarnings, hrest]

theorem problem_of_outcome {count : Int} (hprecision : options.precision = .places count)
    (hcount : 0 ≤ count) (hformat : count < 2 ^ 31)
    (htree : parse entry.source limits.reading = .ok (some entry.expr)) {raised : Raised}
    (h : (fileSheet options limits path).outcome entry = .error raised) :
    ∃ problem, raised = .problem problem ∧
      calculate .builtins entry.source limits = .error problem ∧
      (fileSheet options limits path).warnings entry = [] := by
  rcases Worksheet.failure_of_outcome h with
    ⟨problem, hproblem, rfl⟩ | ⟨value, fault, -, hfault, -⟩
  · refine ⟨problem, rfl, calculate_of_parse htree hproblem, ?_⟩
    simp only [Worksheet.warnings, hproblem]
  · -- No value is refused at this precision.
    obtain ⟨text, htext⟩ := value.display_places hcount hformat
    have hdisplay : value.display options.precision = .error fault := hfault
    rw [hprecision, htext] at hdisplay
    cases hdisplay

end

/-! ## Files -/

variable {options : CommandLine.Options} {limits : NestingLimits} {count : Int}

theorem finish_runAndPrint (path : String) (hprecision : options.precision = .places count)
    (hcount : 0 ≤ count) (hformat : count < 2 ^ 31) {entries : List Entry}
    (htrees : ∀ entry ∈ entries, parse entry.source limits.reading = .ok (some entry.expr)) :
    FileOutcome path options.precision limits (entries.map Entry.label)
      (finish (runAndPrint ((fileSheet options limits path).holding entries []))) := by
  have hreleased := (fileSheet_released options limits path).holding entries []
  rcases all_ok_or_first_error (fileSheet options limits path).outcome entries with
    ⟨texts, htexts⟩ | ⟨before, entry, after, texts, raised, rfl, htexts, hentry⟩
  · obtain ⟨solved, hlines, hresults, hwarnings⟩ := exists_solved htrees htexts
    have houtcome : FileOutcome path options.precision limits _ _ := .finished hlines.symm
    rw [hresults, hwarnings] at houtcome
    rw [runAndPrint, Worksheet.run_of_all_ok hreleased htexts]
    simpa [Worksheet.printResults_eq, finish_ok] using houtcome
  · obtain ⟨htreesBefore, htreesRest⟩ := List.forall_mem_append.mp htrees
    obtain ⟨htree, -⟩ := List.forall_mem_cons.mp htreesRest
    obtain ⟨solved, hlines, hresults, hwarnings⟩ := exists_solved htreesBefore htexts
    obtain ⟨problem, rfl, hproblem, hnone⟩ :=
      problem_of_outcome hprecision hcount hformat htree hentry
    have hread := Worksheet.readable_labels htrees
    have hsplit : (before ++ entry :: after).map Entry.label =
        solved.map SolvedLine.line ++ (entry.source, entry.line) :: after.map Entry.label := by
      rw [hlines, List.map_append, List.map_cons]
      rfl
    have houtcome : FileOutcome path options.precision limits _ _ := .stopped hread hsplit hproblem
    rw [hresults, hwarnings] at houtcome
    rw [runAndPrint, Worksheet.run_of_error hreleased rfl htexts hentry]
    simp only [Worksheet.register_holding, Worksheet.holding_holding, Worksheet.printResults_eq,
      Worksheet.holding_results, List.nil_append, Worksheet.warnings_holding, hnone,
      List.append_nil]
    rw [finish_problem]
    exact houtcome

theorem addLines_labels (path : String) (hshow : options.showTree = false) {entries : List Entry}
    {rest : List (String × Int)}
    (htrees : ∀ entry ∈ entries, parse entry.source limits.reading = .ok (some entry.expr))
    (hnumbers : (entries.map Entry.label ++ rest).Pairwise fun line line' => line.2 < line'.2) :
    (fileSheet options limits path).addLines (entries.map Entry.label ++ rest) =
      ((fileSheet options limits path).holding entries []).addLines rest := by
  have hentries := List.pairwise_map.mp (List.pairwise_append.mp hnumbers).1
  have hnew : entries.Pairwise fun e e' => e.line ≠ e'.line :=
    hentries.imp fun hlt => Int.ne_of_lt hlt
  exact Worksheet.addLines_append (fileSheet_released options limits path) hshow htrees hnew rest

theorem finish_evaluateFile (path content : String) (hprecision : options.precision = .places count)
    (hshow : options.showTree = false) (hcount : 0 ≤ count) (hformat : count < 2 ^ 31) :
    FileOutcome path options.precision limits (SourceLine.listed content)
      (finish (evaluateFile options path (some content) limits)) := by
  have hnumbers := SourceLine.pairwise_listed content
  rw [evaluateFile, load_eq, SourceLine.ofFile_eq_listed]
  obtain ⟨entries, htrees, hlines⟩ := Worksheet.readable_or_first_error (SourceLine.listed content)
    limits.reading fun line hline => (SourceLine.parse_listed hline).2 _
  -- Lines are taken before any is run, so a line that cannot be read leaves nothing else to show.
  rcases hlines with hlines | ⟨source, number, after, problem, hlines, hproblem⟩
  · rw [hlines] at hnumbers ⊢
    rw [← List.append_nil (entries.map Entry.label)] at hnumbers
    have hload := addLines_labels path hshow htrees hnumbers
    rw [List.append_nil] at hload
    rw [hload]
    exact finish_runAndPrint path hprecision hcount hformat htrees
  · rw [hlines] at hnumbers ⊢
    have hadd : ((fileSheet options limits path).holding entries []).add source number =
        .raise _ (.problem problem) := Worksheet.add_of_unread number hproblem
    rw [addLines_labels path hshow htrees hnumbers, Worksheet.addLines, hadd, Turn.raise_andThen,
      Turn.raise_andThen, Turn.raise, Worksheet.register_holding, finish_problem]
    exact .unread rfl (Worksheet.readable_labels htrees) hproblem

end Program

end Calculator
