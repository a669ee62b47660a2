import Calculator.Proofs.Report.Turn
import Calculator.Worksheet

/-!
# Running a worksheet

`Worksheet.outcome` says what comes of one entry: the text that is displayed, or what is raised. A run does
nothing else but to go through these outcomes up to the first failure. When there is none, all
entries leave the queue and their texts are kept (`run_of_all_ok`); otherwise the entries up to the
failing one leave it, and the texts before that one are kept (`run_of_error`).
-/

namespace Calculator

/-- Every list of attempts succeeds as a whole, or has a first failure. -/
theorem all_ok_or_first_error {α β ε : Type} (f : α → Except ε β) (l : List α) :
    (∃ bs : List β, l.map f = bs.map .ok) ∨
      ∃ (before : List α) (a : α) (after : List α) (bs : List β) (error : ε),
        l = before ++ a :: after ∧ before.map f = bs.map .ok ∧ f a = .error error := by
  induction l with
  | nil => exact .inl ⟨[], rfl⟩
  | cons a l ih =>
    cases ha : f a with
    | error error => exact .inr ⟨[], a, l, [], error, rfl, rfl, ha⟩
    | ok b =>
      rcases ih with ⟨bs, hbs⟩ | ⟨before, c, after, bs, error, rfl, hbs, hc⟩
      · exact .inl ⟨b :: bs, by simp [ha, hbs]⟩
      · exact .inr ⟨a :: before, c, after, b :: bs, error, rfl, by simp [ha, hbs], hc⟩

/-! ## Calculations -/

section

variable {functions : Registry} {source : String} {limits : NestingLimits}

theorem calculate_of_unread {problem : Problem}
    (h : parse source limits.reading = .error problem) :
    calculate functions source limits = .error problem := by
  rw [calculate, h]
  rfl

theorem calculate_of_read {e : Expr} (h : parse source limits.reading = .ok (some e)) :
    calculate functions source limits = (reduce functions source e limits.evaluation).map some := by
  rw [calculate, h]
  rfl

theorem calculate_eq_error {problem : Problem}
    (h : calculate functions source limits = .error problem) :
    parse source limits.reading = .error problem ∨
      ∃ e, parse source limits.reading = .ok (some e) ∧
        reduce functions source e limits.evaluation = .error problem := by
  cases hparse : parse source limits.reading with
  | error problem' =>
    rw [calculate, hparse] at h
    cases h
    exact .inl rfl
  | ok tree =>
    cases tree with
    | none =>
      rw [calculate, hparse] at h
      cases h
    | some e =>
      rw [calculate_of_read hparse] at h
      cases hreduce : reduce functions source e limits.evaluation with
      | error problem' =>
        rw [hreduce] at h
        cases h
        exact .inr ⟨e, rfl, hreduce⟩
      | ok value =>
        rw [hreduce] at h
        cases h

theorem calculate_eq_none (h : calculate functions source limits = .ok none) :
    parse source limits.reading = .ok none := by
  cases hparse : parse source limits.reading with
  | error problem =>
    rw [calculate_of_unread hparse] at h
    cases h
  | ok tree =>
    cases tree with
    | none => rfl
    | some e =>
      rw [calculate_of_read hparse] at h
      cases hreduce : reduce functions source e limits.evaluation <;> rw [hreduce] at h <;> cases h

theorem calculate_eq_some {value : Value}
    (h : calculate functions source limits = .ok (some value)) :
    ∃ e, parse source limits.reading = .ok (some e) ∧
      reduce functions source e limits.evaluation = .ok value := by
  cases hparse : parse source limits.reading with
  | error problem =>
    rw [calculate, hparse] at h
    cases h
  | ok tree =>
    cases tree with
    | none =>
      rw [calculate, hparse] at h
      cases h
    | some e =>
      rw [calculate_of_read hparse] at h
      cases hreduce : reduce functions source e limits.evaluation with
      | error problem =>
        rw [hreduce] at h
        cases h
      | ok value' =>
        rw [hreduce] at h
        cases h
        exact ⟨e, rfl, hreduce⟩

end

namespace Worksheet

/-! ## Contents -/

def holding (sheet : Worksheet) (queue : List Entry) (results : List String) : Worksheet :=
  { sheet with queue, results }

section

variable (sheet : Worksheet) (source : String) (line : Int) (queue queue' : List Entry)
  (results results' : List String)

@[simp] theorem holding_queue : (sheet.holding queue results).queue = queue := rfl

@[simp] theorem holding_results : (sheet.holding queue results).results = results := rfl

@[simp] theorem holding_holding :
    (sheet.holding queue results).holding queue' results' = sheet.holding queue' results' := rfl

@[simp] theorem holding_self : sheet.holding sheet.queue sheet.results = sheet := rfl

theorem printResults_eq : sheet.printResults =
    ⟨sheet.results.map .result, sheet.holding sheet.queue [], .ok ()⟩ := rfl

/-! Registering and releasing look at nothing but the path and touch nothing but the trace. -/

theorem mapTrace_eq (f : Trace → String → Trace) :
    sheet.mapTrace f = { sheet with reporter := (sheet.mapTrace f).reporter } := by
  obtain ⟨reporter, path, _⟩ := sheet
  cases path <;> rfl

theorem mapTrace_holding (f : Trace → String → Trace) :
    (sheet.holding queue results).mapTrace f = (sheet.mapTrace f).holding queue results := by
  obtain ⟨reporter, path, _⟩ := sheet
  cases path <;> rfl

theorem mapTrace_set_set (line line' : Option Line) :
    (sheet.mapTrace fun trace path => trace.set path line).mapTrace
        (fun trace path => trace.set path line') =
      sheet.mapTrace fun trace path => trace.set path line' := by
  obtain ⟨reporter, path, _⟩ := sheet
  cases path with
  | none => rfl
  | some path => simp only [mapTrace, Trace.set_set]

theorem register_eq : sheet.register source line =
    { sheet with reporter := (sheet.register source line).reporter } :=
  sheet.mapTrace_eq _

theorem release_eq : sheet.release = { sheet with reporter := sheet.release.reporter } :=
  sheet.mapTrace_eq _

theorem register_holding : (sheet.holding queue results).register source line =
    (sheet.register source line).holding queue results :=
  sheet.mapTrace_holding queue results _

theorem release_holding :
    (sheet.holding queue results).release = sheet.release.holding queue results :=
  sheet.mapTrace_holding queue results _

theorem register_release : (sheet.register source line).release = sheet.release :=
  sheet.mapTrace_set_set _ _

theorem release_register : sheet.release.register source line = sheet.register source line :=
  sheet.mapTrace_set_set _ _

theorem release_release : sheet.release.release = sheet.release :=
  sheet.mapTrace_set_set _ _

@[simp] theorem register_functions :
    (sheet.register source line).functions = sheet.functions := by
  rw [register_eq]

@[simp] theorem register_limits : (sheet.register source line).limits = sheet.limits := by
  rw [register_eq]

@[simp] theorem register_precision :
    (sheet.register source line).precision = sheet.precision := by
  rw [register_eq]

@[simp] theorem register_queue : (sheet.register source line).queue = sheet.queue := by
  rw [register_eq]

@[simp] theorem register_results : (sheet.register source line).results = sheet.results := by
  rw [register_eq]

end

theorem add_of_unread {sheet : Worksheet} {source : String} {problem : Problem} (line : Int)
    (h : parse source sheet.limits.reading = .error problem) :
    sheet.add source line = .raise (sheet.register source line) (.problem problem) := by
  rw [add, h]

theorem shown_of_hidden {sheet : Worksheet} (h : sheet.showTree = false) (e : Expr) :
    sheet.shown e = .ok [] := by
  simp [shown, h]

theorem shown_of_showing {sheet : Worksheet} (h : sheet.showTree = true) (e : Expr) :
    sheet.shown e = (e.checkOutline sheet.limits.display).map fun _ => [.tree e] := by
  simp [shown, h]

/-- No line of the sheet's own path is registered. -/
def Released (sheet : Worksheet) : Prop :=
  sheet.release = sheet

theorem Released.holding {sheet : Worksheet} (h : sheet.Released) (queue : List Entry)
    (results : List String) : (sheet.holding queue results).Released := by
  rw [Released, release_holding, h]

/-! ## One entry -/

/-- What comes of an entry: the text that is displayed, or what is raised. -/
def outcome (sheet : Worksheet) (entry : Entry) : Except Raised String :=
  match reduce sheet.functions entry.source entry.expr sheet.limits.evaluation with
  | .error problem => .error (.problem problem)
  | .ok value =>
    match value.display sheet.precision with
    | .error fault => .error (.fault fault)
    | .ok text => .ok text

section

variable {sheet : Worksheet} {entry : Entry} {value : Value}

theorem outcome_of_problem {problem : Problem}
    (h : reduce sheet.functions entry.source entry.expr sheet.limits.evaluation = .error problem) :
    sheet.outcome entry = .error (.problem problem) := by
  rw [outcome, h]

theorem outcome_of_display {text : String}
    (h : reduce sheet.functions entry.source entry.expr sheet.limits.evaluation = .ok value)
    (htext : value.display sheet.precision = .ok text) : sheet.outcome entry = .ok text := by
  simp only [outcome, h, htext]

theorem outcome_of_fault {fault : Fault}
    (h : reduce sheet.functions entry.source entry.expr sheet.limits.evaluation = .ok value)
    (hfault : value.display sheet.precision = .error fault) :
    sheet.outcome entry = .error (.fault fault) := by
  simp only [outcome, h, hfault]

end

theorem value_of_outcome {sheet : Worksheet} {entry : Entry} {text : String}
    (h : sheet.outcome entry = .ok text) :
    ∃ value,
      reduce sheet.functions entry.source entry.expr sheet.limits.evaluation = .ok value ∧
      value.display sheet.precision = .ok text := by
  unfold outcome at h
  split at h
  · cases h
  · next value hvalue =>
    split at h
    · cases h
    · next text' htext =>
      cases h
      exact ⟨value, hvalue, htext⟩

theorem failure_of_outcome {sheet : Worksheet} {entry : Entry} {raised : Raised}
    (h : sheet.outcome entry = .error raised) :
    (∃ problem,
      reduce sheet.functions entry.source entry.expr sheet.limits.evaluation = .error problem ∧
      raised = .problem problem) ∨
    ∃ value fault,
      reduce sheet.functions entry.source entry.expr sheet.limits.evaluation = .ok value ∧
      value.display sheet.precision = .error fault ∧ raised = .fault fault := by
  unfold outcome at h
  split at h
  · next problem hproblem =>
    cases h
    exact .inl ⟨problem, hproblem, rfl⟩
  · next value hvalue =>
    split at h
    · next fault hfault =>
      cases h
      exact .inr ⟨value, fault, hvalue, hfault, rfl⟩
    · cases h

def warnings (sheet : Worksheet) (entry : Entry) : List Output :=
  match reduce sheet.functions entry.source entry.expr sheet.limits.evaluation with
  | .error _ => []
  | .ok value => (sheet.register entry.source entry.line).nonFiniteWarning entry.source value

def nonFinite (place : Option (String × Line)) (source : String) : Value → List Output
  | .number x =>
    if x.isFinite then []
    else [.warning place (.unlocated .general s!"'{source}' does not have a finite result")]
  | .text _ => []

theorem nonFiniteWarning_eq (sheet : Worksheet) (source : String) (value : Value) :
    sheet.nonFiniteWarning source value =
      nonFinite sheet.reporter.trace.location? source value := by
  cases value <;> rfl

theorem warnings_of_problem {sheet : Worksheet} {entry : Entry} {problem : Problem}
    (h : reduce sheet.functions entry.source entry.expr sheet.limits.evaluation = .error problem) :
    sheet.warnings entry = [] := by
  rw [warnings, h]

theorem warnings_of_value {sheet : Worksheet} {entry : Entry} {value : Value}
    (h : reduce sheet.functions entry.source entry.expr sheet.limits.evaluation = .ok value) :
    sheet.warnings entry =
      nonFinite (sheet.register entry.source entry.line).reporter.trace.location? entry.source
        value := by
  simp only [warnings, h, nonFiniteWarning_eq]

@[simp] theorem outcome_holding (sheet : Worksheet) (queue : List Entry) (results : List String) :
    (sheet.holding queue results).outcome = sheet.outcome := rfl

@[simp] theorem warnings_holding (sheet : Worksheet) (queue : List Entry)
    (results : List String) : (sheet.holding queue results).warnings = sheet.warnings := by
  funext entry
  simp only [warnings, register_holding]
  rfl

theorem keep_of_display {sheet : Worksheet} {source text : String} {value : Value}
    (h : value.display sheet.precision = .ok text) :
    sheet.keep source value = ⟨sheet.nonFiniteWarning source value,
      (sheet.holding sheet.queue (sheet.results ++ [text])).release, .ok ()⟩ := by
  rw [keep, h]
  rfl

theorem evaluateEntry_of_ok {sheet : Worksheet} {entry : Entry} {text : String}
    (h : sheet.outcome entry = .ok text) :
    sheet.evaluateEntry entry = ⟨sheet.warnings entry,
      sheet.release.holding sheet.queue (sheet.results ++ [text]), .ok ()⟩ := by
  obtain ⟨value, hvalue, htext⟩ := value_of_outcome h
  have hregistered : value.display (sheet.register entry.source entry.line).precision = .ok text := by
    rw [register_precision, htext]
  simp only [evaluateEntry, warnings, register_functions, register_limits, hvalue,
    keep_of_display hregistered, release_holding, register_release, register_queue,
    register_results]

theorem evaluateEntry_of_error {sheet : Worksheet} {entry : Entry} {raised : Raised}
    (h : sheet.outcome entry = .error raised) :
    sheet.evaluateEntry entry =
      ⟨sheet.warnings entry, sheet.register entry.source entry.line, .error raised⟩ := by
  simp only [evaluateEntry, warnings, register_functions, register_limits]
  rcases failure_of_outcome h with ⟨problem, hproblem, rfl⟩ | ⟨value, fault, hvalue, hfault, rfl⟩
  · rw [hproblem]
    rfl
  · simp only [hvalue, keep, register_precision, hfault]

/-! ## Entries in order -/

theorem runEntries_nil (sheet : Worksheet) :
    sheet.runEntries [] = .done (sheet.holding [] sheet.results) () := rfl

theorem runEntries_cons (sheet : Worksheet) (entry : Entry) (rest : List Entry) :
    sheet.runEntries (entry :: rest) =
      ((sheet.holding rest sheet.results).evaluateEntry entry).andThen
        fun sheet _ => sheet.runEntries rest := rfl

theorem runEntries_holding (sheet : Worksheet) (queue entries : List Entry) :
    (sheet.holding queue sheet.results).runEntries entries = sheet.runEntries entries := by
  cases entries <;> rfl

theorem runEntries_append {sheet : Worksheet} (hreleased : sheet.Released)
    {before : List Entry} {texts : List String} (rest : List Entry)
    (h : before.map sheet.outcome = texts.map .ok) :
    sheet.runEntries (before ++ rest) =
      ((sheet.holding rest (sheet.results ++ texts)).runEntries rest).after
        (before.flatMap sheet.warnings) := by
  -- The sheet is generalized, since each entry leaves its text there for the next ones.
  induction before generalizing sheet texts with
  | nil =>
    obtain rfl : texts = [] := by simpa using h.symm
    simp [runEntries_holding]
  | cons entry before ih =>
    cases texts with
    | nil => cases h
    | cons text texts =>
      rw [List.map_cons, List.map_cons, List.cons.injEq] at h
      obtain ⟨hentry, hbefore⟩ := h
      have hnext : (sheet.holding (before ++ rest) sheet.results).evaluateEntry entry =
          ⟨sheet.warnings entry, sheet.holding (before ++ rest) (sheet.results ++ [text]),
            .ok ()⟩ := by
        rw [evaluateEntry_of_ok (by simpa using hentry), warnings_holding,
          hreleased.holding (before ++ rest) sheet.results]
        simp
      have hreleased' := hreleased.holding (before ++ rest) (sheet.results ++ [text])
      rw [List.cons_append, runEntries_cons, hnext, Turn.ok_andThen, ih hreleased' hbefore]
      simp [List.append_assoc]

/-- A run of entries that all succeed. -/
theorem run_of_all_ok {sheet : Worksheet} (hreleased : sheet.Released) {texts : List String}
    (h : sheet.queue.map sheet.outcome = texts.map .ok) :
    sheet.run = ⟨sheet.queue.flatMap sheet.warnings, sheet.holding [] (sheet.results ++ texts),
      .ok ()⟩ := by
  have hrun := runEntries_append hreleased [] h
  rw [List.append_nil] at hrun
  rw [run, hrun, runEntries_nil]
  simp [Turn.after, Turn.done]

/-- A run up to the first entry that fails. -/
theorem run_of_error {sheet : Worksheet} (hreleased : sheet.Released) {before after : List Entry}
    {entry : Entry} {texts : List String} {raised : Raised}
    (hqueue : sheet.queue = before ++ entry :: after)
    (hbefore : before.map sheet.outcome = texts.map .ok)
    (hentry : sheet.outcome entry = .error raised) :
    sheet.run = ⟨before.flatMap sheet.warnings ++ sheet.warnings entry,
      (sheet.register entry.source entry.line).holding after (sheet.results ++ texts),
      .error raised⟩ := by
  have hlast : (sheet.holding after (sheet.results ++ texts)).outcome entry = .error raised := hentry
  rw [run, hqueue, runEntries_append hreleased _ hbefore, runEntries_cons]
  simp only [holding_holding, holding_results]
  rw [evaluateEntry_of_error hlast]
  simp [Turn.after, register_holding]

theorem run_single {sheet : Worksheet} (hreleased : sheet.Released) (entry : Entry) :
    (sheet.holding [entry] []).run =
      match sheet.outcome entry with
      | .error raised =>
        ⟨sheet.warnings entry, (sheet.register entry.source entry.line).holding [] [],
          .error raised⟩
      | .ok text => ⟨sheet.warnings entry, sheet.holding [] [text], .ok ()⟩ := by
  have hreleased' := hreleased.holding [entry] []
  cases houtcome : sheet.outcome entry with
  | error raised =>
    have hqueue : (sheet.holding [entry] []).queue = [] ++ entry :: [] := rfl
    have htexts : ([] : List Entry).map (sheet.holding [entry] []).outcome = [].map .ok := rfl
    rw [run_of_error hreleased' hqueue htexts houtcome]
    simp [register_holding]
  | ok text =>
    have htexts : [entry].map (sheet.holding [entry] []).outcome = [text].map .ok := by
      simp [houtcome]
    rw [run_of_all_ok hreleased' htexts]
    simp

end Worksheet

end Calculator
