import Calculator.Proofs.Worksheet.Run

/-!
# What a worksheet can answer

A user adds expressions, runs them and takes results. `Answered` lists all that a single call can
do to the queue and the results, with the conditions under which it does so; nothing but the
reporter changes besides (`answered_answer`).
-/

namespace Calculator

inductive Call where
  | add (source : String) (line : Int)
  | run
  | pop

def Entry.label (entry : Entry) : String × Int :=
  (entry.source, entry.line)

namespace Worksheet

/-- Carries out a call. Only taking a result has an answer. -/
def answer (sheet : Worksheet) : Call → Turn Worksheet (Option String)
  | .add source line => (sheet.add source line).map fun _ => none
  | .run => sheet.run.map fun _ => none
  | .pop => sheet.pop.map some

/-- The ways in which a worksheet answers a call. -/
inductive Answered (sheet : Worksheet) : Call → Turn Worksheet (Option String) → Prop
  /-- An expression that is refused, or has too many levels to be shown, changes neither queue nor
  results. -/
  | refused {source : String} {raised : Raised} (line : Int) (reporter : Reporter) :
      (∀ e, parse source sheet.limits.reading = .ok (some e) →
        ∃ fault, sheet.shown e = .error fault ∧ raised = .fault fault) →
      Answered sheet (.add source line) ⟨[], { sheet with reporter }, .error raised⟩
  /-- A line that no entry waits for is put behind all others. -/
  | added {source : String} {line : Int} {e : Expr} {outputs : List Output} (reporter : Reporter) :
      parse source sheet.limits.reading = .ok (some e) → sheet.shown e = .ok outputs →
      (∀ entry ∈ sheet.queue, entry.line ≠ line) →
      Answered sheet (.add source line)
        ⟨outputs, { sheet with reporter, queue := sheet.queue ++ [⟨line, source, e⟩] }, .ok none⟩
  /-- A line that is still pending keeps its place and takes the new expression. -/
  | replaced {source : String} {line : Int} {e : Expr} {before after : List Entry} {old : Entry}
      {outputs : List Output} (reporter : Reporter) :
      parse source sheet.limits.reading = .ok (some e) → sheet.shown e = .ok outputs →
      sheet.queue = before ++ old :: after → old.line = line →
      Answered sheet (.add source line)
        ⟨outputs, { sheet with reporter, queue := before ++ ⟨line, source, e⟩ :: after }, .ok none⟩
  /-- A run without a failure. -/
  | finished {texts : List String} (outputs : List Output) (reporter : Reporter) :
      sheet.queue.map sheet.outcome = texts.map .ok →
      Answered sheet .run ⟨outputs,
        { sheet with reporter, queue := [], results := sheet.results ++ texts }, .ok none⟩
  /-- A run up to the first failure: the later entries go on waiting. -/
  | stopped {before after : List Entry} {entry : Entry} {texts : List String} {raised : Raised}
      (outputs : List Output) (reporter : Reporter) : sheet.queue = before ++ entry :: after →
      before.map sheet.outcome = texts.map .ok → sheet.outcome entry = .error raised →
      Answered sheet .run ⟨outputs,
        { sheet with reporter, queue := after, results := sheet.results ++ texts }, .error raised⟩
  | popped {text : String} {results : List String} : sheet.results = text :: results →
      Answered sheet .pop ⟨[], { sheet with results }, .ok (some text)⟩
  | empty : sheet.results = [] →
      Answered sheet .pop ⟨[], sheet, .error (.fault .noResult)⟩

/-! ## The queue -/

theorem enqueue_of_new {entry : Entry} {queue : List Entry}
    (h : ∀ e ∈ queue, e.line ≠ entry.line) : enqueue entry queue = queue ++ [entry] := by
  induction queue with
  | nil => rfl
  | cons e queue ih =>
    obtain ⟨he, hqueue⟩ := List.forall_mem_cons.mp h
    rw [enqueue, if_neg he, ih hqueue, List.cons_append]

theorem enqueue_of_pending {entry old : Entry} {before : List Entry} (after : List Entry)
    (hbefore : ∀ e ∈ before, e.line ≠ entry.line) (hold : old.line = entry.line) :
    enqueue entry (before ++ old :: after) = before ++ entry :: after := by
  induction before with
  | nil => rw [List.nil_append, enqueue, if_pos hold, List.nil_append]
  | cons e before ih =>
    obtain ⟨he, hbefore⟩ := List.forall_mem_cons.mp hbefore
    rw [List.cons_append, enqueue, if_neg he, ih hbefore, List.cons_append]

theorem new_or_pending (queue : List Entry) (line : Int) :
    (∀ e ∈ queue, e.line ≠ line) ∨
      ∃ before old after, queue = before ++ old :: after ∧ old.line = line ∧
        ∀ e ∈ before, e.line ≠ line := by
  induction queue with
  | nil => exact .inl (List.forall_mem_nil _)
  | cons e queue ih =>
    by_cases he : e.line = line
    · exact .inr ⟨[], e, queue, rfl, he, List.forall_mem_nil _⟩
    · rcases ih with hnew | ⟨before, old, after, rfl, hold, hbefore⟩
      · exact .inl (List.forall_mem_cons.mpr ⟨he, hnew⟩)
      · exact .inr ⟨e :: before, old, after, rfl, hold, List.forall_mem_cons.mpr ⟨he, hbefore⟩⟩

/-! ## Each call -/

theorem answered_add (sheet : Worksheet) (source : String) (line : Int) :
    sheet.Answered (.add source line) (sheet.answer (.add source line)) := by
  rw [answer, add]
  cases hparse : parse source sheet.limits.reading with
  | error problem =>
    simp only [Turn.raise, Turn.map]
    rw [register_eq]
    exact .refused line _ (by simp [hparse])
  | ok tree =>
    cases tree with
    | none => exact .refused line sheet.reporter (by simp [hparse])
    | some e =>
      cases hshown : sheet.shown e with
      | error fault =>
        simp only [Turn.raise, Turn.map, hshown]
        rw [register_eq]
        exact .refused line _ (by simp [hparse, hshown])
      | ok outputs =>
        simp only [Turn.map, hshown]
        rw [release_eq]
        rcases new_or_pending sheet.queue line with
          hnew | ⟨before, old, after, hqueue, hold, hbefore⟩
        · rw [enqueue_of_new hnew]
          exact .added _ hparse hshown hnew
        · rw [hqueue, enqueue_of_pending after hbefore hold]
          exact .replaced _ hparse hshown hqueue hold

theorem run_release {sheet : Worksheet} (h : sheet.queue ≠ []) : sheet.release.run = sheet.run := by
  have hqueue : sheet.release.queue = sheet.queue := by rw [release_eq]
  have hresults : sheet.release.results = sheet.results := by rw [release_eq]
  rw [run, run, hqueue]
  cases hentries : sheet.queue with
  | nil => exact absurd hentries h
  | cons entry rest =>
    rw [runEntries_cons, runEntries_cons, hresults, ← release_holding]
    simp only [evaluateEntry, release_register]

theorem answered_run (sheet : Worksheet) : sheet.Answered .run (sheet.answer .run) := by
  rw [answer]
  by_cases hqueue : sheet.queue = []
  · have hrun : sheet.run = .done (sheet.holding [] sheet.results) () := by
      rw [run, hqueue, runEntries_nil]
    have hfinished : sheet.Answered .run ⟨[], { sheet with
        reporter := sheet.reporter, queue := [], results := sheet.results ++ [] }, .ok none⟩ :=
      .finished [] sheet.reporter (by simp [hqueue])
    rw [List.append_nil] at hfinished
    rw [hrun]
    exact hfinished
  · -- A failed call may have left a line registered, which a run that starts has no use for.
    have hreleased : sheet.release.Released := sheet.release_release
    have hcontents : sheet.release.queue = sheet.queue ∧ sheet.release.results = sheet.results ∧
        sheet.release.outcome = sheet.outcome := by rw [release_eq]; exact ⟨rfl, rfl, rfl⟩
    obtain ⟨hq, hresults, houtcome⟩ := hcontents
    rw [← run_release hqueue]
    rcases all_ok_or_first_error sheet.outcome sheet.queue with
      ⟨texts, htexts⟩ | ⟨before, entry, after, texts, raised, hsplit, htexts, hentry⟩
    · rw [run_of_all_ok hreleased (by rw [hq, houtcome, htexts]), hresults, release_eq]
      exact .finished _ _ htexts
    · rw [run_of_error hreleased (by rw [hq, hsplit]) (by rw [houtcome, htexts])
        (by rw [houtcome, hentry]), hresults, release_register, register_eq]
      exact .stopped _ _ hsplit htexts hentry

theorem answered_pop (sheet : Worksheet) : sheet.Answered .pop (sheet.answer .pop) := by
  rw [answer, pop]
  cases hresults : sheet.results with
  | nil => exact .empty hresults
  | cons text results => exact .popped hresults

theorem answered_answer (sheet : Worksheet) : ∀ call, sheet.Answered call (sheet.answer call)
  | .add source line => sheet.answered_add source line
  | .run => sheet.answered_run
  | .pop => sheet.answered_pop

end Worksheet

end Calculator
