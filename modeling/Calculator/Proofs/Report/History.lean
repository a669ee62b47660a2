import Mathlib.Data.List.Induction
import Mathlib.Data.List.Nodup
import Calculator.Proofs.Report.Turn

/-!
# Histories of a reporter

A reporter is told of files and of lines, it warns and reports, and it guards work that may raise
something. After any history its trace is known from the calls alone (`trace_history`): it holds the
paths in the order in which they were first mentioned, each with its latest line. So it is known
what the next report lists, and `Answers` says what comes of every call (`answers_of_history`).
-/

namespace Calculator

namespace Reporter

inductive Call where
  | enter (path : String)
  | register (path : String) (line : Line)
  | release (path : String)
  | warn (problem : Problem)
  | report (problem : Problem)
  | guard (raised : Option Raised)

/-- Carries out a call. The answer is none when something was raised and is over. -/
def answer (reporter : Reporter) : Call → Turn Reporter (Option Unit)
  | .enter path | .release path =>
    .done { reporter with trace := reporter.trace.release path } (some ())
  | .register path line =>
    .done { reporter with trace := reporter.trace.register path line } (some ())
  | .warn problem => ⟨[reporter.warn problem], reporter, .ok (some ())⟩
  | .report problem => (reporter.report problem).map some
  | .guard raised => reporter.settle (raised.elim (.ok ()) .error)

def history (reporter : Reporter) (calls : List Call) : Reporter :=
  calls.foldl (fun reporter call => (reporter.answer call).state) reporter

theorem history_append (reporter : Reporter) (calls later : List Call) :
    reporter.history (calls ++ later) = (reporter.history calls).history later :=
  List.foldl_append

/-! ## What the calls tell -/

def Call.path? : Call → Option String
  | .enter path | .register path _ | .release path => some path
  | _ => none

def Call.problem? : Call → Option Problem
  | .report problem | .guard (some (.problem problem)) => some problem
  | .guard (some .interrupt) => some .interrupted
  | .guard (some (.fault fault)) => some (internalProblem fault)
  | _ => none

/-- What a call says about the line of a path, if it says anything: registering gives the path a
line, entering and releasing leave it without one, and so does every report that is not fatal. -/
def Call.line? (fatal : Bool) (path : String) : Call → Option (Option Line)
  | .enter other | .release other => if other = path then some none else none
  | .register other line => if other = path then some (some line) else none
  | call => if fatal || call.problem?.isNone then none else some none

/-- The paths in the order in which they were first mentioned. -/
def mentioned (calls : List Call) : List String :=
  (calls.filterMap Call.path?).eraseDups

/-- The line of a path, as the last call that says anything about it tells. -/
def lineAfter (fatal : Bool) (calls : List Call) (path : String) : Option Line :=
  (calls.reverse.findSome? (Call.line? fatal path)).join

def listing (fatal : Bool) (calls : List Call) : List (String × Line) :=
  (mentioned calls).filterMap fun path =>
    ((lineAfter fatal calls path).filter fun line => !line.text.isEmpty).map (path, ·)

/-! ## What comes of a call -/

def problemSpans (problem : Problem) : List Span :=
  (if problem.internal then [⟨.error, "[internal] "⟩] else []) ++
    [⟨.error, "error: "⟩, .plain (problem.message ++ "\n")] ++ Output.withDiagnosis .error problem

/-- The output shows these lines, under a heading if there are several, and then the problem. -/
def Shows (lines : List (String × Line)) (problem : Problem) (output : Output) : Prop :=
  output.spans =
    .plain ((if 2 ≤ lines.length then "Traceback:\n" else "") ++
      String.join (lines.map Output.lineText)) :: problemSpans problem

structure Bare (now next : Reporter) : Prop where
  fatal_eq : next.fatal = now.fatal
  paths_eq : next.trace.map Prod.fst = now.trace.map Prod.fst
  lines_eq : ∀ entry ∈ next.trace, entry.2 = none

/-- The ways in which a reporter answers a call, where `lines` are those that a report shows. -/
inductive Answers (now : Reporter) (lines : List (String × Line)) :
    Call → Turn Reporter (Option Unit) → Prop
  | noted {call : Call} {path : String} (next : Reporter) : call.path? = some path →
      Answers now lines call ⟨[], next, .ok (some ())⟩
  | warned (problem : Problem) :
      Answers now lines (.warn problem) ⟨[now.warn problem], now, .ok (some ())⟩
  | undisturbed : Answers now lines (.guard none) ⟨[], now, .ok (some ())⟩
  /-- An exit goes on as it is. -/
  | passed (code : Option Int) :
      Answers now lines (.guard (some (.exit code))) ⟨[], now, .error (.exit code)⟩
  /-- Whatever is reported ends the program, and the trace stays. -/
  | fatal {call : Call} {problem : Problem} {output : Output} : now.fatal = true →
      call.problem? = some problem → Shows lines problem output →
      Answers now lines call ⟨[output], now, .error (.exit (some 1))⟩
  | reported {problem : Problem} {output : Output} {next : Reporter} : now.fatal = false →
      Shows lines problem output → Bare now next →
      Answers now lines (.report problem) ⟨[output], next, .ok (some ())⟩
  /-- A problem or an interrupt is over when it has been reported. -/
  | swallowed {raised : Raised} {problem : Problem} {output : Output} {next : Reporter} :
      now.fatal = false → raised = .problem problem ∨ raised = .interrupt ∧ problem = .interrupted →
      Shows lines problem output → Bare now next →
      Answers now lines (.guard (some raised)) ⟨[output], next, .ok none⟩
  /-- A fault is reported as internal and raised again. -/
  | raisedAgain {fault : Fault} {problem : Problem} {output : Output} {next : Reporter} :
      now.fatal = false → problem = internalProblem fault → problem.internal = true →
      Shows lines problem output → Bare now next →
      Answers now lines (.guard (some (.fault fault))) ⟨[output], next, .error (.fault fault)⟩

/-! ## Traces as functions of their paths -/

def traceOf (paths : List String) (line : String → Option Line) : Trace :=
  paths.map fun path => (path, line path)

@[simp] theorem map_fst_traceOf (paths : List String) (line : String → Option Line) :
    (traceOf paths line).map Prod.fst = paths := by
  simp [traceOf, Function.comp_def]

theorem set_traceOf_of_mem {paths : List String} {path : String} (hnodup : paths.Nodup)
    (h : path ∈ paths) (line : String → Option Line) (new : Option Line) :
    (traceOf paths line).set path new =
      traceOf paths fun other => if path = other then new else line other := by
  induction paths with
  | nil => cases h
  | cons first paths ih =>
    obtain ⟨hfirst, hnodup⟩ := List.nodup_cons.mp hnodup
    by_cases heq : first = path
    · subst heq
      have hrest : ∀ other ∈ paths, line other = if first = other then new else line other := by
        intro other hother
        have hne : first ≠ other := fun he => hfirst (he ▸ hother)
        rw [if_neg hne]
      simp only [traceOf, List.map_cons, Trace.set, ↓reduceIte, List.cons.injEq, true_and]
      exact List.map_congr_left fun other hother => congrArg (other, ·) (hrest other hother)
    · have hmem : path ∈ paths := (List.mem_cons.mp h).resolve_left fun he => heq he.symm
      have hrest := ih hnodup hmem
      simp only [traceOf] at hrest
      simp only [traceOf, List.map_cons, Trace.set, if_neg heq, if_neg (Ne.symm heq), hrest]

theorem set_traceOf_of_not_mem {paths : List String} {path : String} (h : path ∉ paths)
    (line : String → Option Line) (new : Option Line) :
    (traceOf paths line).set path new =
      traceOf (paths ++ [path]) fun other => if path = other then new else line other := by
  induction paths with
  | nil => simp [traceOf, Trace.set]
  | cons first paths ih =>
    obtain ⟨hne, hrest⟩ := List.ne_and_not_mem_of_not_mem_cons h
    have hset := ih hrest
    simp only [traceOf] at hset
    simp only [traceOf, List.cons_append, List.map_cons, Trace.set, if_neg (Ne.symm hne),
      if_neg hne, hset]

theorem clear_traceOf (paths : List String) (line : String → Option Line) :
    (traceOf paths line).clear = traceOf paths fun _ => none := by
  simp [traceOf, Trace.clear]

/-! ## One more call -/

theorem mentioned_concat_of_none {calls : List Call} {call : Call} (h : call.path? = none) :
    mentioned (calls ++ [call]) = mentioned calls := by
  simp [mentioned, List.filterMap_append, h]

theorem mentioned_concat_of_some {calls : List Call} {call : Call} {path : String}
    (h : call.path? = some path) :
    mentioned (calls ++ [call]) =
      if path ∈ mentioned calls then mentioned calls else mentioned calls ++ [path] := by
  have hpaths : (calls ++ [call]).filterMap Call.path? = calls.filterMap Call.path? ++ [path] := by
    rw [List.filterMap_append, List.filterMap_cons, h, List.filterMap_nil]
  rw [mentioned, hpaths, List.eraseDups_append, ← mentioned]
  have hmem : path ∈ mentioned calls ↔ path ∈ calls.filterMap Call.path? := List.mem_eraseDups
  split
  · next hold =>
    have hnone : [path].removeAll (calls.filterMap Call.path?) = [] := by
      rw [List.removeAll, List.filter_singleton, List.elem_eq_mem, decide_eq_true (hmem.mp hold)]
      rfl
    rw [hnone, List.eraseDups_nil, List.append_nil]
  · next hnew =>
    have hone : [path].removeAll (calls.filterMap Call.path?) = [path] := by
      rw [List.removeAll, List.filter_singleton, List.elem_eq_mem,
        decide_eq_false (mt hmem.mpr hnew)]
      rfl
    rw [hone, List.eraseDups_cons, List.filter_nil, List.eraseDups_nil]

theorem nodup_mentioned (calls : List Call) : (mentioned calls).Nodup := by
  induction calls using List.reverseRecOn with
  | nil => exact List.nodup_nil
  | append_singleton calls call ih =>
    cases hpath : call.path? with
    | none => rwa [mentioned_concat_of_none hpath]
    | some path =>
      rw [mentioned_concat_of_some hpath]
      split
      · exact ih
      · next hnew => exact ih.append (List.nodup_singleton path) (List.disjoint_singleton.mpr hnew)

theorem lineAfter_concat (fatal : Bool) (calls : List Call) (call : Call) (path : String) :
    lineAfter fatal (calls ++ [call]) path =
      (call.line? fatal path).getD (lineAfter fatal calls path) := by
  rw [lineAfter, List.reverse_append, List.reverse_singleton, List.singleton_append,
    List.findSome?_cons]
  cases call.line? fatal path <;> rfl

theorem set_concat {fatal : Bool} {calls : List Call} {call : Call} {path : String}
    {line : Option Line} (hpath : call.path? = some path)
    (hline : ∀ other, call.line? fatal other = if path = other then some line else none) :
    (traceOf (mentioned calls) (lineAfter fatal calls)).set path line =
      traceOf (mentioned (calls ++ [call])) (lineAfter fatal (calls ++ [call])) := by
  have hlines : lineAfter fatal (calls ++ [call]) =
      fun other => if path = other then line else lineAfter fatal calls other := by
    funext other
    rw [lineAfter_concat, hline]
    split <;> rfl
  rw [mentioned_concat_of_some hpath, hlines]
  split
  · next hold => exact set_traceOf_of_mem (nodup_mentioned calls) hold _ _
  · next hnew => exact set_traceOf_of_not_mem hnew _ _

theorem traceOf_concat_of_silent {fatal : Bool} {calls : List Call} {call : Call}
    (hpath : call.path? = none) (hline : ∀ path, call.line? fatal path = none) :
    traceOf (mentioned (calls ++ [call])) (lineAfter fatal (calls ++ [call])) =
      traceOf (mentioned calls) (lineAfter fatal calls) := by
  have hlines : lineAfter fatal (calls ++ [call]) = lineAfter fatal calls := by
    funext path
    rw [lineAfter_concat, hline, Option.getD_none]
  rw [mentioned_concat_of_none hpath, hlines]

theorem clear_concat {fatal : Bool} {calls : List Call} {call : Call}
    (hpath : call.path? = none) (hline : ∀ path, call.line? fatal path = some none) :
    (traceOf (mentioned calls) (lineAfter fatal calls)).clear =
      traceOf (mentioned (calls ++ [call])) (lineAfter fatal (calls ++ [call])) := by
  have hlines : lineAfter fatal (calls ++ [call]) = fun _ => none := by
    funext path
    rw [lineAfter_concat, hline, Option.getD_some]
  rw [mentioned_concat_of_none hpath, hlines, clear_traceOf]

/-! ## Reports -/

section

variable {reporter : Reporter} {call : Call} {problem : Problem}

/-- The calls by which a problem is reported. -/
inductive Reports : Call → Problem → Prop
  | direct (problem : Problem) : Reports (.report problem) problem
  | caught (problem : Problem) : Reports (.guard (some (.problem problem))) problem
  | interrupt : Reports (.guard (some .interrupt)) .interrupted
  | fault (fault : Fault) : Reports (.guard (some (.fault fault))) (internalProblem fault)

theorem reports_of_problem? (h : call.problem? = some problem) : Reports call problem := by
  unfold Call.problem? at h
  split at h <;> cases h <;> constructor

theorem line?_of_problem? (h : call.problem? = some problem) (fatal : Bool) (path : String) :
    call.line? fatal path = if fatal then none else some none := by
  cases reports_of_problem? h <;> simp [Call.line?, Call.problem?]

theorem answer_of_fatal (hfatal : reporter.fatal = true) (h : call.problem? = some problem) :
    reporter.answer call =
      ⟨[.report reporter.trace.lines problem], reporter, .error (.exit (some 1))⟩ := by
  cases reports_of_problem? h with
  | direct => simp [answer, report, hfatal, Turn.map, Except.map]
  | caught | interrupt | fault => simp [answer, settle, report, hfatal]

def Call.remains : Call → Except Raised (Option Unit)
  | .guard (some (.fault fault)) => .error (.fault fault)
  | .guard _ => .ok none
  | _ => .ok (some ())

theorem answer_of_not_fatal (hfatal : reporter.fatal = false) (h : call.problem? = some problem) :
    reporter.answer call = ⟨[.report reporter.trace.lines problem],
      { reporter with trace := reporter.trace.clear }, call.remains⟩ := by
  cases reports_of_problem? h with
  | direct => simp [answer, report, hfatal, Turn.map, Except.map, Call.remains]
  | caught | interrupt | fault =>
    simp [answer, settle, report, hfatal, Turn.done, Turn.raise, Turn.after, Call.remains]

inductive Idle : Call → Prop
  | warn (problem : Problem) : Idle (.warn problem)
  | undisturbed : Idle (.guard none)
  | exit (code : Option Int) : Idle (.guard (some (.exit code)))

theorem idle_of_path? (hpath : call.path? = none) (hproblem : call.problem? = none) :
    Idle call := by
  cases call with
  | enter | register | release => cases hpath
  | report => cases hproblem
  | warn => exact .warn _
  | guard raised =>
    match raised with
    | none => exact .undisturbed
    | some (.exit code) => exact .exit code
    | some (.problem _) | some .interrupt | some (.fault _) => cases hproblem

theorem line?_of_idle (h : Idle call) (fatal : Bool) (path : String) :
    call.line? fatal path = none := by
  cases h <;> simp [Call.line?, Call.problem?]

theorem bare_clear (reporter : Reporter) :
    Bare reporter { reporter with trace := reporter.trace.clear } := by
  refine ⟨rfl, ?_, ?_⟩
  · simp [Trace.clear]
  · rintro entry hentry
    obtain ⟨_, _, rfl⟩ := List.mem_map.mp hentry
    rfl

end

/-! ## Whole histories -/

theorem trace_history (fatal : Bool) (calls : List Call) :
    history ⟨fatal, []⟩ calls =
      ⟨fatal, traceOf (mentioned calls) (lineAfter fatal calls)⟩ := by
  induction calls using List.reverseRecOn with
  | nil => rfl
  | append_singleton calls call ih =>
    rw [history_append, ih, history, List.foldl_cons, List.foldl_nil]
    cases hpath : call.path? with
    | some path =>
      cases call with
      | enter | register | release =>
        exact congrArg (Reporter.mk fatal) (set_concat rfl fun _ => rfl)
      | warn | report | guard => cases hpath
    | none =>
      cases hproblem : call.problem? with
      | some problem =>
        have hline := line?_of_problem? hproblem
        cases fatal with
        | true =>
          rw [answer_of_fatal rfl hproblem]
          exact congrArg (Reporter.mk true) (traceOf_concat_of_silent hpath (hline true)).symm
        | false =>
          rw [answer_of_not_fatal rfl hproblem]
          exact congrArg (Reporter.mk false) (clear_concat hpath (hline false))
      | none =>
        have hidle := idle_of_path? hpath hproblem
        have hsilent := @traceOf_concat_of_silent fatal calls call hpath (line?_of_idle hidle fatal)
        cases hidle <;> exact congrArg (Reporter.mk fatal) hsilent.symm

theorem shows_report (fatal : Bool) (calls : List Call) (problem : Problem) :
    Shows (listing fatal calls) problem
      (.report (history ⟨fatal, []⟩ calls).trace.lines problem) := by
  have hshown : (history ⟨fatal, []⟩ calls).trace.lines.filter
      (fun entry => !entry.2.text.isEmpty) = listing fatal calls := by
    rw [trace_history, traceOf, Trace.lines, List.filterMap_map, List.filter_filterMap, listing]
    refine List.filterMap_congr fun path _ => ?_
    cases hline : lineAfter fatal calls path with
    | none => simp [hline]
    | some line => cases hempty : line.text.isEmpty <;> simp [hline, Option.filter, hempty]
  rw [Shows, Output.spans, Output.linesText, hshown]
  simp [problemSpans, Nat.lt_iff_add_one_le]

theorem answers_answer {now : Reporter} {lines : List (String × Line)}
    (hshows : ∀ problem, Shows lines problem (.report now.trace.lines problem)) (call : Call) :
    Answers now lines call (now.answer call) := by
  cases hpath : call.path? with
  | some path =>
    cases call with
    | enter | register | release => exact .noted _ rfl
    | warn | report | guard => cases hpath
  | none =>
    cases hproblem : call.problem? with
    | some problem =>
      cases hfatal : now.fatal with
      | true =>
        rw [answer_of_fatal hfatal hproblem]
        exact .fatal hfatal hproblem (hshows problem)
      | false =>
        rw [answer_of_not_fatal hfatal hproblem]
        cases reports_of_problem? hproblem with
        | direct => exact .reported hfatal (hshows _) (bare_clear now)
        | caught => exact .swallowed hfatal (.inl rfl) (hshows _) (bare_clear now)
        | interrupt => exact .swallowed hfatal (.inr ⟨rfl, rfl⟩) (hshows _) (bare_clear now)
        | fault => exact .raisedAgain hfatal rfl rfl (hshows _) (bare_clear now)
    | none =>
      cases idle_of_path? hpath hproblem with
      | warn => exact .warned _
      | undisturbed => exact .undisturbed
      | exit code => exact .passed code

theorem swallows_iff {now : Reporter} {raised : Raised} :
    (now.answer (.guard (some raised))).result = .ok none ↔
      now.fatal = false ∧ (raised = .interrupt ∨ ∃ problem, raised = .problem problem) := by
  cases hproblem : (Call.guard (some raised)).problem? with
  | some problem =>
    cases hfatal : now.fatal with
    | true => simp [answer_of_fatal hfatal hproblem]
    | false =>
      rw [answer_of_not_fatal hfatal hproblem]
      cases reports_of_problem? hproblem <;> simp [Call.remains]
  | none =>
    cases idle_of_path? rfl hproblem with
    | exit code => simp [answer, settle, Turn.raise]

/-- After any calls the trace of a reporter has the paths that were mentioned, in that order and for
good, each with its latest line. Every report lists those with a line, and only a reporter that is
not fatal swallows what a block raises, if it is a problem or an interrupt. -/
theorem answers_of_history (fatal : Bool) (calls : List Call) :
    let now := history ⟨fatal, []⟩ calls
    now.fatal = fatal ∧
      now.trace = (mentioned calls).map (fun path => (path, lineAfter fatal calls path)) ∧
      (∀ later, now.trace.map Prod.fst <+: (now.history later).trace.map Prod.fst) ∧
      (∀ call, Answers now (listing fatal calls) call (now.answer call)) ∧
      ∀ raised, (now.answer (.guard (some raised))).result = .ok none ↔
        fatal = false ∧ (raised = .interrupt ∨ ∃ problem, raised = .problem problem) := by
  intro now
  have hnow : now = ⟨fatal, traceOf (mentioned calls) (lineAfter fatal calls)⟩ :=
    trace_history fatal calls
  refine ⟨by rw [hnow], by rw [hnow, traceOf], ?_, ?_, ?_⟩
  · intro later
    rw [← history_append, trace_history, hnow, map_fst_traceOf, map_fst_traceOf, mentioned,
      mentioned, List.filterMap_append, List.eraseDups_append]
    exact List.prefix_append _ _
  · exact answers_answer (shows_report fatal calls)
  · intro raised
    rw [swallows_iff, hnow]

example :
    listing false [.register "sums" ⟨"1 +", 3⟩, .register "more" ⟨"", 1⟩, .enter "other",
      .register "sums" ⟨"2 *", 4⟩] = [("sums", ⟨"2 *", 4⟩)] := by
  decide +kernel

end Reporter

end Calculator
