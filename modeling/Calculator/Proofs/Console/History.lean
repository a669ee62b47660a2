import Calculator.Console
import Calculator.Proofs.Worksheet.Run

/-!
# Consoles forget

Between two lines the worksheet of a console is idle: nothing waits, no result is left, and no line is
registered. What shows of the answer to a line is then a matter of the line and the settings alone
(`Console.respond_of_idle`), and the worksheet is idle again. So a console answers after any history
as a new one does (`Console.respond_after_history`).
-/

namespace Calculator

structure Reply (α : Type) where
  outputs : List Output
  result : Except Raised α

def Turn.reply {σ α : Type} (turn : Turn σ α) : Reply α :=
  ⟨turn.outputs, turn.result⟩

namespace Reply

variable {σ α β : Type}

def turn (reply : Reply α) (state : σ) : Turn σ α :=
  ⟨reply.outputs, state, reply.result⟩

@[simp] theorem reply_turn (reply : Reply α) (state : σ) : (reply.turn state).reply = reply := rfl

def map (f : α → β) (reply : Reply α) : Reply β :=
  ⟨reply.outputs, reply.result.map f⟩

theorem turn_andThen (reply : Reply α) (state : σ) (f : α → β) :
    ((reply.turn state).andThen fun state a => .done state (f a)) = (reply.map f).turn state := by
  obtain ⟨outputs, result⟩ := reply
  cases result with
  | ok a => simp [turn, map, Turn.andThen, Turn.after, Turn.done, Except.map]
  | error raised => rfl

def complaint (problem : Problem) : Reply Unit :=
  ⟨[.report [] problem], .ok ()⟩

def settle : Reply Unit → Reply Unit
  | ⟨outputs, .ok ()⟩ => ⟨outputs, .ok ()⟩
  | ⟨outputs, .error (.problem problem)⟩ => ⟨outputs ++ [.report [] problem], .ok ()⟩
  | ⟨outputs, .error .interrupt⟩ => ⟨outputs ++ [.report [] .interrupted], .ok ()⟩
  | ⟨outputs, .error (.exit code)⟩ => ⟨outputs, .error (.exit code)⟩
  | ⟨outputs, .error (.fault fault)⟩ =>
    ⟨outputs ++ [.report [] (Reporter.internalProblem fault)], .error (.fault fault)⟩

end Reply

/-! ## Idle worksheets -/

theorem Trace.clear_of_lines {trace : Trace} (h : trace.lines = []) : trace.clear = trace := by
  calc
    trace.clear = trace.map id := by
      refine List.map_congr_left fun entry hentry => ?_
      obtain ⟨path, line⟩ := entry
      cases line with
      | none => rfl
      | some line => cases List.filterMap_eq_nil_iff.mp h _ hentry
    _ = trace := List.map_id trace

/-- Nothing waits, no result is left, no line is registered, and none will be. Errors are not
fatal. -/
structure Worksheet.Idle (sheet : Worksheet) : Prop where
  path : sheet.path = none
  queue : sheet.queue = []
  results : sheet.results = []
  fatal : sheet.reporter.fatal = false
  lines : sheet.reporter.trace.lines = []

namespace Worksheet.Idle

variable {sheet : Worksheet}

theorem mapTrace (h : sheet.Idle) (f : Trace → String → Trace) : sheet.mapTrace f = sheet := by
  rw [Worksheet.mapTrace, h.path]

theorem register (h : sheet.Idle) (source : String) (line : Int) :
    sheet.register source line = sheet :=
  h.mapTrace _

theorem release (h : sheet.Idle) : sheet.release = sheet :=
  h.mapTrace _

theorem holding (h : sheet.Idle) : sheet.holding [] [] = sheet := by
  calc
    sheet.holding [] [] = sheet.holding sheet.queue sheet.results := by rw [h.queue, h.results]
    _ = sheet := sheet.holding_self

theorem withLimits (h : sheet.Idle) (limits : NestingLimits) : (sheet.withLimits limits).Idle :=
  ⟨h.path, h.queue, h.results, h.fatal, h.lines⟩

theorem report (h : sheet.Idle) (problem : Problem) :
    sheet.reporter.report problem = ⟨[.report [] problem], sheet.reporter, .ok ()⟩ := by
  simp only [Reporter.report, h.fatal, h.lines, Trace.clear_of_lines h.lines]
  simp [← h.fatal]

end Worksheet.Idle

/-! ## One expression -/

namespace Worksheet

/-- What shows when an idle worksheet takes a source, runs and prints its result. -/
def reply (sheet : Worksheet) (source : String) : Reply Unit :=
  match parse source sheet.limits.reading with
  | .error problem => ⟨[], .error (.problem problem)⟩
  | .ok none => ⟨[], .error (.problem .noInput)⟩
  | .ok (some e) =>
    match sheet.shown e with
    | .error fault => ⟨[], .error (.fault fault)⟩
    | .ok trees =>
      let entry : Entry := ⟨0, source, e⟩
      match sheet.outcome entry with
      | .error raised => ⟨trees ++ sheet.warnings entry, .error raised⟩
      | .ok text => ⟨trees ++ sheet.warnings entry ++ [.result text], .ok ()⟩

theorem Idle.warnings {sheet : Worksheet} (h : sheet.Idle) (source : String) (e : Expr)
    (line line' : Int) : sheet.warnings ⟨line, source, e⟩ = sheet.warnings ⟨line', source, e⟩ := by
  simp only [Worksheet.warnings, h.register]

theorem Idle.run {sheet : Worksheet} (h : sheet.Idle) (entry : Entry) :
    ((sheet.holding [entry] []).run.andThen fun sheet _ => sheet.printResults) =
      match sheet.outcome entry with
      | .error raised => ⟨sheet.warnings entry, sheet, .error raised⟩
      | .ok text => ⟨sheet.warnings entry ++ [.result text], sheet, .ok ()⟩ := by
  rw [run_single h.release]
  cases houtcome : sheet.outcome entry with
  | error raised => simp [h.register, h.holding]
  | ok text => simp [printResults_eq, Turn.after, h.holding]

theorem reply_eq {sheet : Worksheet} (h : sheet.Idle) (source : String) (line : Int) :
    ((sheet.add source line).andThen fun sheet _ =>
      sheet.run.andThen fun sheet _ => sheet.printResults) = (sheet.reply source).turn sheet := by
  rw [add, reply]
  cases parse source sheet.limits.reading with
  | error problem =>
    simp only [h.register]
    rfl
  | ok e =>
    cases e with
    | none => rfl
    | some e =>
      have hadded : { sheet with queue := enqueue ⟨line, source, e⟩ sheet.queue }.release =
          sheet.holding [⟨line, source, e⟩] [] := by
        calc
          { sheet with queue := enqueue ⟨line, source, e⟩ sheet.queue }.release
              = (sheet.holding [⟨line, source, e⟩] []).release := by
                rw [h.queue, ← h.results]; rfl
          _ = sheet.holding [⟨line, source, e⟩] [] := by rw [release_holding, h.release]
      have houtcome : sheet.outcome ⟨line, source, e⟩ = sheet.outcome ⟨0, source, e⟩ := rfl
      cases hshown : sheet.shown e with
      | error fault =>
        simp only [h.register, hshown]
        rfl
      | ok trees =>
        simp only [hadded, hshown, Turn.ok_andThen, h.run, houtcome, h.warnings source e line 0]
        cases sheet.outcome ⟨0, source, e⟩ with
        | error raised => rfl
        | ok text => simp [Turn.after, Reply.turn]

/-! What shows of a source is what comes of its calculation. -/

def trees (sheet : Worksheet) (source : String) : Except Fault (List Output) :=
  match parse source sheet.limits.reading with
  | .ok (some e) => sheet.shown e
  | _ => .ok []

section

variable {sheet : Worksheet} {source : String} {value : Value}

theorem trees_of_hidden (h : sheet.showTree = false) (source : String) :
    sheet.trees source = .ok [] := by
  unfold trees
  split
  · exact shown_of_hidden h _
  · rfl

theorem exists_of_trees {fault : Fault} (h : sheet.trees source = .error fault) :
    ∃ e, parse source sheet.limits.reading = .ok (some e) ∧ sheet.shown e = .error fault := by
  unfold trees at h
  split at h
  · next e hparse => exact ⟨e, hparse, h⟩
  · cases h

theorem reply_of_unshown {fault : Fault} (h : sheet.trees source = .error fault) :
    sheet.reply source = ⟨[], .error (.fault fault)⟩ := by
  obtain ⟨e, hparse, hshown⟩ := exists_of_trees h
  simp only [reply, hparse, hshown]

variable {trees : List Output}

theorem reply_of_read {e : Expr} (h : parse source sheet.limits.reading = .ok (some e))
    (htrees : sheet.trees source = .ok trees) :
    sheet.reply source =
      match sheet.outcome ⟨0, source, e⟩ with
      | .error raised => ⟨trees ++ sheet.warnings ⟨0, source, e⟩, .error raised⟩
      | .ok text => ⟨trees ++ sheet.warnings ⟨0, source, e⟩ ++ [.result text], .ok ()⟩ := by
  simp only [Worksheet.trees, h] at htrees
  simp only [reply, h, htrees]

theorem reply_of_refused {problem : Problem} (htrees : sheet.trees source = .ok trees)
    (h : calculate sheet.functions source sheet.limits = .error problem) :
    sheet.reply source = ⟨trees, .error (.problem problem)⟩ := by
  rcases calculate_eq_error h with hparse | ⟨e, hparse, hreduce⟩
  · simp only [Worksheet.trees, hparse] at htrees
    cases htrees
    simp only [reply, hparse]
  · have houtcome : sheet.outcome ⟨0, source, e⟩ = .error (.problem problem) :=
      outcome_of_problem hreduce
    have hwarnings : sheet.warnings ⟨0, source, e⟩ = [] := warnings_of_problem hreduce
    rw [reply_of_read hparse htrees, houtcome, hwarnings, List.append_nil]

theorem reply_of_blank (h : calculate sheet.functions source sheet.limits = .ok none) :
    sheet.reply source = ⟨[], .error (.problem .noInput)⟩ := by
  rw [reply, calculate_eq_none h]

theorem Idle.warnings_eq (hidle : sheet.Idle) {e : Expr}
    (h : reduce sheet.functions source e sheet.limits.evaluation = .ok value) :
    sheet.warnings ⟨0, source, e⟩ = nonFinite none source value := by
  have hwarnings : sheet.warnings ⟨0, source, e⟩ = _ := warnings_of_value h
  rw [hwarnings, hidle.register, Trace.location?, hidle.lines]
  rfl

theorem Idle.reply_of_text (hidle : sheet.Idle) (htrees : sheet.trees source = .ok trees)
    (h : calculate sheet.functions source sheet.limits = .ok (some value)) {text : String}
    (htext : value.display sheet.precision = .ok text) :
    sheet.reply source = ⟨trees ++ nonFinite none source value ++ [.result text], .ok ()⟩ := by
  obtain ⟨e, hparse, hreduce⟩ := calculate_eq_some h
  have houtcome : sheet.outcome ⟨0, source, e⟩ = .ok text := outcome_of_display hreduce htext
  rw [reply_of_read hparse htrees, houtcome, hidle.warnings_eq hreduce]

theorem Idle.reply_of_fault (hidle : sheet.Idle) (htrees : sheet.trees source = .ok trees)
    (h : calculate sheet.functions source sheet.limits = .ok (some value)) {fault : Fault}
    (hfault : value.display sheet.precision = .error fault) :
    sheet.reply source = ⟨trees ++ nonFinite none source value, .error (.fault fault)⟩ := by
  obtain ⟨e, hparse, hreduce⟩ := calculate_eq_some h
  have houtcome : sheet.outcome ⟨0, source, e⟩ = .error (.fault fault) :=
    outcome_of_fault hreduce hfault
  rw [reply_of_read hparse htrees, houtcome, hidle.warnings_eq hreduce]

end

end Worksheet

namespace Console

theorem settle_of_idle (console : Console) {turn : Turn Worksheet Unit} (h : turn.state.Idle) :
    console.settle turn = turn.reply.settle.turn { console with worksheet := turn.state } := by
  obtain ⟨outputs, sheet, result⟩ := turn
  rw [settle, Worksheet.settle]
  cases result with
  | ok _ => simp [Reporter.settle, Turn.reply, Reply.settle, Reply.turn, Turn.mapState,
      Turn.after, Turn.done]
  | error raised =>
    cases raised <;>
      simp [Reporter.settle, h.report, Turn.reply, Reply.settle, Reply.turn, Turn.mapState,
        Turn.after, Turn.done, Turn.raise]

variable {console console' : Console}

theorem evaluate_of_idle (h : console.worksheet.Idle) (source : String) :
    console.evaluate source = (console.worksheet.reply source).settle.turn
      { console with lineNumber := console.lineNumber + 1 } := by
  rw [evaluate, Worksheet.reply_eq h, settle_of_idle _ h]
  rfl

theorem evaluateInner_of_idle (h : console.worksheet.Idle) (source : String) :
    console.evaluateInner source =
      ((console.worksheet.withLimits console.worksheet.limits.inner).reply source).settle.turn
        { console with lineNumber := console.lineNumber + 1 } := by
  have hinner : (console.withLimits console.worksheet.limits.inner).worksheet.Idle := h.withLimits _
  rw [evaluateInner, evaluate_of_idle hinner]
  rfl

theorem complain_of_idle (h : console.worksheet.Idle) (problem : Problem) :
    console.complain problem = (Reply.complaint problem).turn console := by
  rw [complain, settle_of_idle _ h]
  rfl

theorem help_of_idle (topic : String) :
    ∃ reply : Reply Unit, ∀ console : Console, console.worksheet.Idle →
      console.help topic = reply.turn console := by
  unfold help
  cases Builtin.named? topic with
  | some f => exact ⟨⟨[.usage f], .ok ()⟩, fun _ _ => rfl⟩
  | none =>
    by_cases htopic : topic.isEmpty = true
    · exact ⟨⟨[.welcome], .ok ()⟩, fun _ _ => if_pos htopic⟩
    · exact ⟨_, fun _ hidle => (if_neg htopic).trans (complain_of_idle hidle _)⟩

/-! ## One line -/

/-- Idle consoles with the same settings. They may have answered different lines before. -/
structure Alike (console console' : Console) : Prop where
  idle : console.worksheet.Idle
  idle' : console'.worksheet.Idle
  functions : console.worksheet.functions = console'.worksheet.functions
  precision : console.worksheet.precision = console'.worksheet.precision
  showTree : console.worksheet.showTree = console'.worksheet.showTree
  limits : console.worksheet.limits = console'.worksheet.limits

theorem Alike.withLimits (h : Alike console console') (limits : NestingLimits) :
    Alike (console.withLimits limits) (console'.withLimits limits) :=
  ⟨h.idle.withLimits _, h.idle'.withLimits _, h.functions, h.precision, h.showTree, rfl⟩

theorem Alike.reply (h : Alike console console') (source : String) :
    console.worksheet.reply source = console'.worksheet.reply source := by
  have hwarn : console.worksheet.reporter.warn = console'.worksheet.reporter.warn := by
    funext problem
    rw [Reporter.warn, Reporter.warn, Trace.location?, Trace.location?, h.idle.lines, h.idle'.lines]
  simp only [Worksheet.reply, Worksheet.shown, Worksheet.outcome, Worksheet.warnings,
    Worksheet.nonFiniteWarning, h.idle.register, h.idle'.register, h.functions, h.precision,
    h.showTree, h.limits, hwarn]

/-- The same shows of their answers to a line, and only the number of the line changes. -/
theorem Alike.perform (h : Alike console console') (command : Command) :
    ∃ reply number number',
      console.perform command = Reply.turn reply { console with lineNumber := number } ∧
      console'.perform command = Reply.turn reply { console' with lineNumber := number' } := by
  cases command with
  | blank =>
    refine ⟨(Reply.complaint .noInput).map fun _ => none, console.lineNumber, console'.lineNumber, ?_⟩
    simp only [Console.perform, complain_of_idle h.idle, complain_of_idle h.idle',
      Reply.turn_andThen, and_self]
  | help topic =>
    obtain ⟨reply, hreply⟩ := help_of_idle topic
    refine ⟨reply.map fun _ => none, console.lineNumber, console'.lineNumber, ?_⟩
    simp only [Console.perform, hreply console h.idle, hreply console' h.idle',
      Reply.turn_andThen, and_self]
  | exit rest =>
    by_cases hrest : rest.isEmpty = true
    · refine ⟨⟨[], .ok (some true)⟩, console.lineNumber, console'.lineNumber, ?_⟩
      simp only [Console.perform, if_pos hrest]
      exact ⟨rfl, rfl⟩
    · have hinner : (console.worksheet.withLimits console.worksheet.limits.inner).reply
          ("exit" ++ rest) =
          (console'.worksheet.withLimits console'.worksheet.limits.inner).reply ("exit" ++ rest) := by
        rw [← h.limits]
        exact (h.withLimits _).reply _
      refine ⟨((console'.worksheet.withLimits console'.worksheet.limits.inner).reply
        ("exit" ++ rest)).settle.map fun _ => some false, console.lineNumber + 1,
        console'.lineNumber + 1, ?_⟩
      simp only [Console.perform, if_neg hrest, evaluateInner_of_idle h.idle,
        evaluateInner_of_idle h.idle', Reply.turn_andThen, hinner, and_self]
  | endOfInput =>
    exact ⟨⟨[.newLine], .ok (some true)⟩, console.lineNumber, console'.lineNumber, rfl, rfl⟩
  | evaluate line =>
    refine ⟨(console'.worksheet.reply line).settle.map fun _ => none, console.lineNumber + 1,
      console'.lineNumber + 1, ?_⟩
    simp only [Console.perform, evaluate_of_idle h.idle, evaluate_of_idle h.idle',
      Reply.turn_andThen, h.reply, and_self]

/-! ## Many lines -/

/-- The console after answers to lines. What an answer raises does not end the history. -/
def history (console : Console) (lines : List String) : Console :=
  lines.foldl (fun console line => (console.respond line).state) console

theorem Alike.refl (h : console.worksheet.Idle) : Alike console console :=
  ⟨h, h, rfl, rfl, rfl, rfl⟩

theorem worksheet_history (h : console.worksheet.Idle) (lines : List String) :
    (console.history lines).worksheet = console.worksheet := by
  induction lines generalizing console with
  | nil => rfl
  | cons line lines ih =>
    obtain ⟨reply, number, -, hturn, -⟩ := (Alike.refl h).perform (.ofLine line)
    have hstate : (console.respond line).state.worksheet = console.worksheet := by
      rw [respond, hturn]
      rfl
    exact (ih (hstate ▸ h)).trans hstate

theorem idle_new {reporter : Reporter} (h : reporter.trace.lines = []) (precision : Precision)
    (showTree : Bool) (functions : Registry) (limits : NestingLimits) :
    (new (.blank reporter precision showTree functions limits)).worksheet.Idle :=
  ⟨rfl, rfl, rfl, rfl, h⟩

/-- After any lines, some of which may have been refused or have raised a fault, nothing waits, no
result is left and no line is registered; and every line is answered as by a new console. -/
theorem respond_after_history (reporter fresh : Reporter) (precision : Precision) (showTree : Bool)
    (functions : Registry) (limits : NestingLimits) (lines : List String)
    (hlines : reporter.trace.lines = []) (hfresh : fresh.trace.lines = []) :
    let now := (new (.blank reporter precision showTree functions limits)).history lines
    now.worksheet.queue = [] ∧ now.worksheet.results = [] ∧
      now.worksheet.reporter.trace.lines = [] ∧
      ∀ line, (now.respond line).reply =
        ((new (.blank fresh precision showTree functions limits)).respond line).reply := by
  have hidle := idle_new hlines precision showTree functions limits
  have hnow := worksheet_history hidle lines
  have halike : Alike ((new (.blank reporter precision showTree functions limits)).history lines)
      (new (.blank fresh precision showTree functions limits)) := by
    refine ⟨hnow ▸ hidle, idle_new hfresh precision showTree functions limits, ?_, ?_, ?_, ?_⟩ <;>
      rw [hnow] <;> rfl
  refine ⟨halike.idle.queue, halike.idle.results, halike.idle.lines, fun line => ?_⟩
  obtain ⟨reply, _, _, hturn, hturn'⟩ := halike.perform (.ofLine line)
  rw [respond, respond, hturn, hturn', Reply.reply_turn, Reply.reply_turn]

/-- No precision is too great for the console to go on after the fault that it causes. -/
theorem respond_after_history_fault :
    let reporter : Reporter := ⟨true, [("expressions", none)]⟩
    let places : Precision := .places 3000000000
    reporter.trace.lines = [] ∧
      ∀ line,
        (((new (.blank reporter places false .builtins)).history ["1 +", "", "1.5"]).respond
          line).reply = ((new (.blank ⟨true, []⟩ places false .builtins)).respond line).reply :=
  ⟨rfl, (respond_after_history ⟨true, [("expressions", none)]⟩ ⟨true, []⟩ (.places 3000000000) false
    .builtins .usual ["1 +", "", "1.5"] rfl rfl).2.2.2⟩

end Console

end Calculator
