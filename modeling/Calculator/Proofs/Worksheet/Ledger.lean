import Mathlib.Data.List.Nodup
import Calculator.Proofs.Worksheet.Answer

/-!
# The ledger of a worksheet

A ledger follows the expressions that a worksheet takes through a history of calls. It is kept from
outside: it knows the calls, whether they succeed, and how many entries a run takes from the queue. Each
expression is known by the number of the call that brought it, so equal expressions are told apart.
After every history the ledger balances (`history_balanced`): what was accepted has been attempted,
waits, or has been replaced, each once.
-/

namespace Calculator

/-- An accepted expression: the number of the call that brought it, its source and its line. -/
structure Ticket where
  call : Nat
  source : String
  line : Int
deriving DecidableEq

def Ticket.label (ticket : Ticket) : String × Int :=
  (ticket.source, ticket.line)

/-- What has become of the expressions that a worksheet has taken. -/
structure Ledger where
  /-- The number of calls so far. -/
  calls : Nat
  /-- In the order of the calls. -/
  accepted : List Ticket
  /-- In the order of the queue. -/
  waiting : List Ticket
  /-- Those that lost their place to a later one of the same line. -/
  replaced : List Ticket
  /-- Those that a run took from the queue, in that order. -/
  attempted : List Ticket
  /-- The texts that were taken. -/
  popped : List String

namespace Ledger

def empty : Ledger :=
  ⟨0, [], [], [], [], []⟩

/-- A ticket takes the place of the one that waits for the same line, or else the last place. -/
def accept (ledger : Ledger) (ticket : Ticket) : Ledger :=
  { ledger with
    accepted := ledger.accepted ++ [ticket]
    waiting :=
      if ledger.waiting.any fun t => t.line = ticket.line then
        ledger.waiting.map fun t => if t.line = ticket.line then ticket else t
      else ledger.waiting ++ [ticket]
    replaced := ledger.replaced ++ ledger.waiting.filter fun t => t.line = ticket.line }

theorem accept_new {ledger : Ledger} {ticket : Ticket}
    (h : ∀ t ∈ ledger.waiting, t.line ≠ ticket.line) :
    ledger.accept ticket = { ledger with
      accepted := ledger.accepted ++ [ticket], waiting := ledger.waiting ++ [ticket] } := by
  have hany : (ledger.waiting.any fun t => t.line = ticket.line) = false := by simpa using h
  have hfilter : (ledger.waiting.filter fun t => t.line = ticket.line) = [] := by simpa using h
  simp [accept, hany, hfilter]

theorem accept_pending {ledger : Ledger} {before after : List Ticket} {old ticket : Ticket}
    (hwaiting : ledger.waiting = before ++ old :: after) (hold : old.line = ticket.line)
    (hbefore : ∀ t ∈ before, t.line ≠ ticket.line) (hafter : ∀ t ∈ after, t.line ≠ ticket.line) :
    ledger.accept ticket = { ledger with
      accepted := ledger.accepted ++ [ticket]
      waiting := before ++ ticket :: after
      replaced := ledger.replaced ++ [old] } := by
  have hany : (ledger.waiting.any fun t => t.line = ticket.line) = true := by
    simp [hwaiting, hold]
  have hmap : ∀ l : List Ticket, (∀ t ∈ l, t.line ≠ ticket.line) →
      (l.map fun t => if t.line = ticket.line then ticket else t) = l := by
    intro l hl
    calc
      (l.map fun t => if t.line = ticket.line then ticket else t)
          = l.map id := List.map_congr_left fun t ht => if_neg (hl t ht)
      _ = l := List.map_id l
  have hfilter : ∀ l : List Ticket, (∀ t ∈ l, t.line ≠ ticket.line) →
      (l.filter fun t => t.line = ticket.line) = [] := by
    intro l hl
    simpa using hl
  simp only [accept, hany, ↓reduceIte]
  rw [hwaiting, List.map_append, List.map_cons, hmap before hbefore, hmap after hafter,
    if_pos hold, List.filter_append, List.filter_cons, hfilter before hbefore, hfilter after hafter]
  simp [hold]

def attempt (ledger : Ledger) (count : Nat) : Ledger :=
  { ledger with
    waiting := ledger.waiting.drop count
    attempted := ledger.attempted ++ ledger.waiting.take count }

/-- The ledger after a call to the worksheet and its answer. -/
def note (ledger : Ledger) (sheet : Worksheet) (call : Call) (turn : Turn Worksheet (Option String)) :
    Ledger :=
  let noted :=
    match call, turn.result with
    | .add source line, .ok _ => ledger.accept ⟨ledger.calls, source, line⟩
    | .run, _ => ledger.attempt (sheet.queue.length - turn.state.queue.length)
    | .pop, .ok (some text) => { ledger with popped := ledger.popped ++ [text] }
    | _, _ => ledger
  { noted with calls := ledger.calls + 1 }

end Ledger

def displayed? (functions : Registry) (precision : Precision) (limits : NestingLimits)
    (source : String) : Option String :=
  match calculate functions source limits with
  | .ok (some value) => (value.display precision).toOption
  | _ => none

namespace Worksheet

def advance (account : Worksheet × Ledger) (call : Call) : Worksheet × Ledger :=
  let turn := account.1.answer call
  (turn.state, account.2.note account.1 call turn)

def history (sheet : Worksheet) (calls : List Call) : Worksheet × Ledger :=
  calls.foldl advance (sheet, .empty)

/-- The ledger agrees with the worksheet, and accounts for everything. -/
structure Balanced (sheet : Worksheet) (ledger : Ledger) : Prop where
  queue : sheet.queue.map Entry.label = ledger.waiting.map Ticket.label
  /-- What waits has a tree: the one that its source spells. -/
  trees : ∀ entry ∈ sheet.queue,
    parse entry.source sheet.limits.reading = .ok (some entry.expr)
  lines : (sheet.queue.map Entry.line).Nodup
  /-- Nothing is lost. -/
  accounts : ledger.accepted.Perm (ledger.attempted ++ ledger.waiting ++ ledger.replaced)
  /-- Nothing is counted twice. -/
  once : (ledger.accepted.map Ticket.call).Nodup
  past : ∀ ticket ∈ ledger.accepted, ticket.call < ledger.calls
  results : ledger.popped ++ sheet.results =
    ledger.attempted.filterMap fun ticket =>
      displayed? sheet.functions sheet.precision sheet.limits ticket.source

/-! ## Outcomes by source -/

theorem displayed?_eq_outcome {sheet : Worksheet} {entry : Entry}
    (h : parse entry.source sheet.limits.reading = .ok (some entry.expr)) :
    displayed? sheet.functions sheet.precision sheet.limits entry.source =
      (sheet.outcome entry).toOption := by
  rw [displayed?, calculate, h, outcome]
  simp only [bind, Except.bind]
  cases reduce sheet.functions entry.source entry.expr sheet.limits.evaluation with
  | error problem => rfl
  | ok value =>
    simp only [Except.map]
    cases value.display sheet.precision <;> rfl

theorem filterMap_displayed? {sheet : Worksheet} {entries : List Entry} {tickets : List Ticket}
    (hlabels : entries.map Entry.label = tickets.map Ticket.label)
    (htrees : ∀ entry ∈ entries,
      parse entry.source sheet.limits.reading = .ok (some entry.expr)) :
    (tickets.filterMap fun ticket =>
        displayed? sheet.functions sheet.precision sheet.limits ticket.source) =
      entries.filterMap fun entry => (sheet.outcome entry).toOption := by
  let shown (source : String) := displayed? sheet.functions sheet.precision sheet.limits source
  calc
    tickets.filterMap (fun ticket => shown ticket.source)
        = (tickets.map Ticket.label).filterMap fun label => shown label.1 := by
          rw [List.filterMap_map]; rfl
    _ = (entries.map Entry.label).filterMap fun label => shown label.1 := by rw [hlabels]
    _ = entries.filterMap fun entry => shown entry.source := by rw [List.filterMap_map]; rfl
    _ = entries.filterMap fun entry => (sheet.outcome entry).toOption :=
          List.filterMap_congr fun entry hentry => displayed?_eq_outcome (htrees entry hentry)

theorem filterMap_outcome {sheet : Worksheet} {entries : List Entry} {texts : List String}
    (h : entries.map sheet.outcome = texts.map .ok) :
    (entries.filterMap fun entry => (sheet.outcome entry).toOption) = texts := by
  calc
    (entries.filterMap fun entry => (sheet.outcome entry).toOption)
        = (entries.map sheet.outcome).filterMap Except.toOption := by rw [List.filterMap_map]; rfl
    _ = (texts.map .ok).filterMap (Except.toOption : Except Raised String → _) := by rw [h]
    _ = texts.filterMap some := by rw [List.filterMap_map]; rfl
    _ = texts := List.filterMap_some

/-! ## One call -/

namespace Balanced

variable {sheet : Worksheet} {ledger : Ledger}

theorem tick (h : Balanced sheet ledger) :
    Balanced sheet { ledger with calls := ledger.calls + 1 } :=
  { h with past := fun ticket hticket => Nat.lt_succ_of_lt (h.past ticket hticket) }

theorem each_once (h : Balanced sheet ledger) :
    ((ledger.attempted ++ ledger.waiting ++ ledger.replaced).map Ticket.call).Nodup :=
  (h.accounts.map Ticket.call).nodup_iff.mp h.once

theorem map_line (h : Balanced sheet ledger) :
    sheet.queue.map Entry.line = ledger.waiting.map Ticket.line := by
  have := congrArg (List.map Prod.snd) h.queue
  rwa [List.map_map, List.map_map] at this

theorem once_concat (h : Balanced sheet ledger) (source : String) (line : Int) :
    ((ledger.accepted ++ [Ticket.mk ledger.calls source line]).map Ticket.call).Nodup := by
  rw [List.map_append, List.nodup_append]
  refine ⟨h.once, by simp, ?_⟩
  intro call hcall other hother
  obtain ⟨ticket, hticket, rfl⟩ := List.mem_map.mp hcall
  obtain rfl : other = ledger.calls := by simpa using hother
  exact Nat.ne_of_lt (h.past ticket hticket)

theorem past_concat (h : Balanced sheet ledger) (source : String) (line : Int) :
    ∀ ticket ∈ ledger.accepted ++ [Ticket.mk ledger.calls source line],
      ticket.call < ledger.calls + 1 := by
  refine List.forall_mem_append.mpr ⟨?_, List.forall_mem_singleton.mpr (Nat.lt_succ_self _)⟩
  exact fun ticket hticket => Nat.lt_succ_of_lt (h.past ticket hticket)

theorem add_new {source : String} {line : Int} {e : Expr} (h : Balanced sheet ledger)
    (reporter : Reporter) (htree : parse source sheet.limits.reading = .ok (some e))
    (hnew : ∀ entry ∈ sheet.queue, entry.line ≠ line) :
    Balanced { sheet with reporter, queue := sheet.queue ++ [⟨line, source, e⟩] }
      { ledger.accept ⟨ledger.calls, source, line⟩ with calls := ledger.calls + 1 } := by
  have hwaiting : ∀ ticket ∈ ledger.waiting, ticket.line ≠ line := by
    intro ticket hticket hline
    have hmem : line ∈ sheet.queue.map Entry.line := by
      rw [h.map_line, ← hline]
      exact List.mem_map_of_mem hticket
    obtain ⟨entry, hentry, hentryLine⟩ := List.mem_map.mp hmem
    exact hnew entry hentry hentryLine
  rw [Ledger.accept_new hwaiting]
  refine ⟨?_, ?_, ?_, ?_, h.once_concat .., h.past_concat source line, h.results⟩
  · simp [h.queue, Entry.label, Ticket.label]
  · exact List.forall_mem_append.mpr ⟨h.trees, List.forall_mem_singleton.mpr htree⟩
  · rw [List.map_append, List.nodup_append]
    refine ⟨h.lines, by simp, ?_⟩
    intro other hother line' hline'
    obtain ⟨entry, hentry, rfl⟩ := List.mem_map.mp hother
    obtain rfl : line' = line := by simpa using hline'
    exact hnew entry hentry
  · have hcount := List.perm_iff_count.mp h.accounts
    refine List.perm_iff_count.mpr fun ticket => ?_
    have := hcount ticket
    simp only [List.count_append] at this ⊢
    omega

theorem line_ne_of_nodup {before after : List Ticket} {ticket : Ticket}
    (h : ((before ++ ticket :: after).map Ticket.line).Nodup) :
    (∀ t ∈ before, t.line ≠ ticket.line) ∧ ∀ t ∈ after, t.line ≠ ticket.line := by
  rw [List.map_append, List.map_cons, List.nodup_append, List.nodup_cons] at h
  obtain ⟨-, ⟨hafter, -⟩, hbefore⟩ := h
  refine ⟨fun t ht => ?_, fun t ht hline => ?_⟩
  · exact hbefore _ (List.mem_map_of_mem ht) _ List.mem_cons_self
  · exact hafter (hline ▸ List.mem_map_of_mem ht)

theorem split_waiting (h : Balanced sheet ledger) {before after : List Entry} {entry : Entry}
    (hqueue : sheet.queue = before ++ entry :: after) :
    ∃ before' ticket after', ledger.waiting = before' ++ ticket :: after' ∧
      before.map Entry.label = before'.map Ticket.label ∧ entry.label = ticket.label ∧
      after.map Entry.label = after'.map Ticket.label := by
  have hlabels := h.queue
  rw [hqueue, List.map_append, List.map_cons] at hlabels
  obtain ⟨before', rest, hwaiting, hbefore, hrest⟩ := List.append_eq_map_iff.mp hlabels
  obtain ⟨ticket, after', rfl, hticket, hafter⟩ := List.map_eq_cons_iff.mp hrest
  exact ⟨before', ticket, after', hwaiting, hbefore.symm, hticket.symm, hafter.symm⟩

theorem add_pending {source : String} {line : Int} {e : Expr} {before after : List Entry}
    {old : Entry} (h : Balanced sheet ledger) (reporter : Reporter)
    (htree : parse source sheet.limits.reading = .ok (some e))
    (hqueue : sheet.queue = before ++ old :: after) (hline : old.line = line) :
    Balanced { sheet with reporter, queue := before ++ ⟨line, source, e⟩ :: after }
      { ledger.accept ⟨ledger.calls, source, line⟩ with calls := ledger.calls + 1 } := by
  obtain ⟨before', ticket, after', hwaiting, hbefore, hticket, hafter⟩ := h.split_waiting hqueue
  have hnodup := h.lines
  rw [h.map_line, hwaiting] at hnodup
  obtain ⟨hnotBefore, hnotAfter⟩ := line_ne_of_nodup hnodup
  obtain rfl : ticket.line = line := by
    rw [← hline]
    exact (congrArg Prod.snd hticket).symm
  have haccept : ledger.accept ⟨ledger.calls, source, ticket.line⟩ = _ :=
    Ledger.accept_pending hwaiting rfl hnotBefore hnotAfter
  rw [haccept]
  refine ⟨?_, ?_, ?_, ?_, h.once_concat .., h.past_concat source ticket.line, h.results⟩
  · simp [hbefore, hafter, Entry.label, Ticket.label]
  · have htrees := h.trees
    rw [hqueue, List.forall_mem_append, List.forall_mem_cons] at htrees
    exact List.forall_mem_append.mpr ⟨htrees.1, List.forall_mem_cons.mpr ⟨htree, htrees.2.2⟩⟩
  · have hlines := h.lines
    rw [hqueue] at hlines
    simpa [hline] using hlines
  · have hcount := List.perm_iff_count.mp h.accounts
    refine List.perm_iff_count.mpr fun t => ?_
    have := hcount t
    simp only [hwaiting, List.count_append, List.count_cons, List.count_nil] at this ⊢
    omega

theorem run {before after : List Entry} (h : Balanced sheet ledger) (reporter : Reporter)
    (hqueue : sheet.queue = before ++ after) :
    Balanced
      { sheet with
        reporter
        queue := after
        results := sheet.results ++
          before.filterMap fun entry => (sheet.outcome entry).toOption }
      { ledger.attempt (sheet.queue.length - after.length) with calls := ledger.calls + 1 } := by
  have hcount : sheet.queue.length - after.length = before.length := by simp [hqueue]
  have htake : before.map Entry.label = (ledger.waiting.take before.length).map Ticket.label := by
    rw [List.map_take, ← h.queue, hqueue, ← List.map_take, List.take_left]
  have hdrop : after.map Entry.label = (ledger.waiting.drop before.length).map Ticket.label := by
    rw [List.map_drop, ← h.queue, hqueue, ← List.map_drop, List.drop_left]
  have htrees := h.trees
  rw [hqueue, List.forall_mem_append] at htrees
  have hlines := h.lines
  rw [hqueue, List.map_append] at hlines
  rw [hcount]
  refine ⟨hdrop, htrees.2, List.Nodup.of_append_right hlines, ?_, h.once, ?_, ?_⟩
  · simpa [Ledger.attempt] using h.accounts
  · exact fun ticket hticket => Nat.lt_succ_of_lt (h.past ticket hticket)
  · change ledger.popped ++ (sheet.results ++ _) =
      (ledger.attempted ++ ledger.waiting.take before.length).filterMap _
    rw [List.filterMap_append, ← h.results, List.append_assoc]
    exact congrArg (fun texts => ledger.popped ++ (sheet.results ++ texts))
      (filterMap_displayed? htake htrees.1).symm

theorem pop {text : String} {results : List String} (h : Balanced sheet ledger)
    (hresults : sheet.results = text :: results) :
    Balanced { sheet with results }
      { ledger with popped := ledger.popped ++ [text], calls := ledger.calls + 1 } := by
  refine { h.tick with results := ?_ }
  rw [← h.results, hresults, List.append_assoc, List.singleton_append]

/-- Each answer leaves the ledger balanced. -/
theorem note {call : Call} {turn : Turn Worksheet (Option String)} (h : Balanced sheet ledger)
    (hanswer : sheet.Answered call turn) : Balanced turn.state (ledger.note sheet call turn) := by
  cases hanswer with
  | refused line reporter _ => exact { h.tick with }
  | added reporter htree _ hnew => exact h.add_new reporter htree hnew
  | replaced reporter htree _ hqueue hold => exact h.add_pending reporter htree hqueue hold
  | finished outputs reporter htexts =>
    have hrun := h.run reporter (List.append_nil sheet.queue).symm
    rwa [filterMap_outcome htexts] at hrun
  | @stopped before after entry texts raised outputs reporter hqueue htexts hentry =>
    have hrun := h.run reporter (hqueue.trans (List.append_cons ..))
    have hfailed : [entry].filterMap (fun entry => (sheet.outcome entry).toOption) = [] := by
      simp [hentry, Except.toOption]
    rwa [List.filterMap_append, filterMap_outcome htexts, hfailed, List.append_nil] at hrun
  | popped hresults => exact h.pop hresults
  | empty _ => exact h.tick

end Balanced

/-! ## Histories -/

theorem balanced_empty (sheet : Worksheet) : Balanced (sheet.holding [] []) .empty where
  queue := rfl
  trees := List.forall_mem_nil _
  lines := List.nodup_nil
  accounts := .refl _
  once := List.nodup_nil
  past := List.forall_mem_nil _
  results := rfl

theorem Answered.settings {sheet : Worksheet} {call : Call} {turn : Turn Worksheet (Option String)}
    (h : sheet.Answered call turn) :
    turn.state.functions = sheet.functions ∧ turn.state.precision = sheet.precision ∧
      turn.state.limits = sheet.limits := by
  cases h <;> exact ⟨rfl, rfl, rfl⟩

theorem Balanced.foldl_advance (calls : List Call) {account : Worksheet × Ledger}
    (h : Balanced account.1 account.2) :
    let later := calls.foldl advance account
    Balanced later.1 later.2 ∧ later.1.functions = account.1.functions ∧
      later.1.precision = account.1.precision ∧ later.1.limits = account.1.limits := by
  induction calls generalizing account with
  | nil => exact ⟨h, rfl, rfl, rfl⟩
  | cons call calls ih =>
    have hanswer := account.1.answered_answer call
    obtain ⟨hlater, hfunctions, hprecision, hlimits⟩ := @ih (advance account call) (h.note hanswer)
    obtain ⟨hfunctions', hprecision', hlimits'⟩ := hanswer.settings
    exact ⟨hlater, hfunctions.trans hfunctions', hprecision.trans hprecision',
      hlimits.trans hlimits'⟩

/-- After any calls to a worksheet, some of which may have failed, the ledger is balanced, and each
expression that was accepted has been attempted once, waits, or has been replaced by a later one of
its line. The next call is answered from there. -/
theorem history_balanced (sheet : Worksheet) (calls : List Call) :
    let (now, ledger) := (sheet.holding [] []).history calls
    (now.functions = sheet.functions ∧ now.precision = sheet.precision ∧
        now.limits = sheet.limits) ∧
      Balanced now ledger ∧
      ((ledger.attempted ++ ledger.waiting ++ ledger.replaced).map Ticket.call).Nodup ∧
      ∀ call, now.Answered call (now.answer call) := by
  obtain ⟨hbalanced, hsettings⟩ := @Balanced.foldl_advance calls (_, .empty) (balanced_empty sheet)
  exact ⟨hsettings, hbalanced, hbalanced.each_once, answered_answer _⟩

end Worksheet

end Calculator
