import Calculator.Proofs.Report.History

/-!
# The location of a warning

A warning is printed with the location of one line. After any calls this is a line that still
stands, that is, one that was registered and has been neither removed nor replaced since, and there
is a location unless no line stands. Of the paths with such a line it is the one that was first
mentioned last, whichever line was registered last (`location_of_history`).
-/

namespace Calculator.Reporter

variable {fatal : Bool} {calls : List Call} {number : Nat} {path : String} {line : Line}

/-- The line that the call of this number has given to the path stands: no later call says anything
about the path. -/
structure Stands (fatal : Bool) (calls : List Call) (number : Nat) (path : String) (line : Line) :
    Prop where
  registered : calls[number]? = some (.register path line)
  kept : ∀ call ∈ calls.drop (number + 1), call.line? fatal path = none

/-- No line that stands was registered later. -/
structure StandsLatest (fatal : Bool) (calls : List Call) (number : Nat) (path : String)
    (line : Line) : Prop extends Stands fatal calls number path line where
  latest : ∀ other path' line', Stands fatal calls other path' line' → other ≤ number

def MentionedLast (fatal : Bool) (calls : List Call) (path : String) : Prop :=
  ∃ before after, mentioned calls = before ++ path :: after ∧
    ∀ other ∈ after, ∀ number line, ¬ Stands fatal calls number other line

/-! ## Lines that stand -/

theorem line?_eq_some_some {call : Call} :
    call.line? fatal path = some (some line) ↔ call = .register path line := by
  cases call with
  | enter | release => simp [Call.line?]
  | register other line' => by_cases h : other = path <;> simp [Call.line?, h]
  | warn | report | guard =>
    simp only [Call.line?]
    split <;> simp

theorem stands_iff : Stands fatal calls number path line ↔
    ∃ before after, calls = before ++ .register path line :: after ∧ before.length = number ∧
      ∀ call ∈ after, call.line? fatal path = none := by
  constructor
  · rintro ⟨hregistered, hkept⟩
    obtain ⟨hlt, hcall⟩ := List.getElem?_eq_some_iff.mp hregistered
    have hlength : (calls.take number).length = number :=
      List.length_take_of_le (Nat.le_of_lt hlt)
    refine ⟨calls.take number, calls.drop (number + 1), ?_, hlength, hkept⟩
    rw [← hcall, ← List.drop_eq_getElem_cons hlt, List.take_append_drop]
  · rintro ⟨before, after, rfl, rfl, hkept⟩
    constructor
    · simp
    · simpa using hkept

theorem lineAfter_eq_some :
    lineAfter fatal calls path = some line ↔ ∃ number, Stands fatal calls number path line := by
  rw [lineAfter, Option.join_eq_some_iff, List.findSome?_eq_some_iff]
  constructor
  · rintro ⟨later, call, earlier, hcalls, hcall, hkept⟩
    obtain rfl := line?_eq_some_some.mp hcall
    refine ⟨_, stands_iff.mpr ⟨earlier.reverse, later.reverse, ?_, rfl, ?_⟩⟩
    · rw [← List.reverse_inj, hcalls]
      simp
    · simpa using hkept
  · rintro ⟨number, hstands⟩
    obtain ⟨before, after, rfl, -, hkept⟩ := stands_iff.mp hstands
    refine ⟨after.reverse, _, before.reverse, by simp, line?_eq_some_some.mpr rfl, ?_⟩
    simpa using hkept

theorem lineAfter_eq_none :
    lineAfter fatal calls path = none ↔ ∀ number line, ¬ Stands fatal calls number path line := by
  rw [Option.eq_none_iff_forall_ne_some]
  simp only [ne_eq, lineAfter_eq_some, not_exists]
  exact forall_comm

theorem Stands.mem_mentioned (h : Stands fatal calls number path line) :
    path ∈ mentioned calls :=
  List.mem_eraseDups.mpr (List.mem_filterMap.mpr ⟨_, List.mem_of_getElem? h.registered, rfl⟩)

/-! ## The location -/

theorem location_history (fatal : Bool) (calls : List Call) :
    (history ⟨fatal, []⟩ calls).trace.location? =
      (mentioned calls).reverse.findSome? fun path =>
        (lineAfter fatal calls path).map (path, ·) := by
  rw [trace_history, Trace.location?, Trace.lines, traceOf, List.filterMap_map,
    List.getLast?_filterMap]
  rfl

theorem location_eq_some : (history ⟨fatal, []⟩ calls).trace.location? = some (path, line) ↔
    (∃ number, Stands fatal calls number path line) ∧ MentionedLast fatal calls path := by
  simp only [location_history, List.findSome?_eq_some_iff, Option.map_eq_some_iff,
    Option.map_eq_none_iff, lineAfter_eq_some, lineAfter_eq_none, MentionedLast]
  constructor
  · rintro ⟨after, other, before, hmentioned, ⟨_, hstands, ⟨⟩⟩, hnone⟩
    refine ⟨hstands, before.reverse, after.reverse, ?_, by simpa using hnone⟩
    rw [← List.reverse_inj, hmentioned]
    simp
  · rintro ⟨hstands, before, after, hmentioned, hnone⟩
    refine ⟨after.reverse, path, before.reverse, ?_, ⟨line, hstands, rfl⟩, by simpa using hnone⟩
    rw [hmentioned]
    simp

theorem location_eq_none : (history ⟨fatal, []⟩ calls).trace.location? = none ↔
    ∀ number path line, ¬ Stands fatal calls number path line := by
  simp only [location_history, List.findSome?_eq_none_iff, List.mem_reverse,
    Option.map_eq_none_iff, lineAfter_eq_none]
  exact ⟨fun h number path line hstands => h path hstands.mem_mentioned number line hstands,
    fun h path _ number line => h number path line⟩

theorem locationText_eq_empty {location : Option (String × Line)} :
    Output.locationText location = "" ↔ location = none := by
  cases location with
  | none => simp [Output.locationText]
  | some entry =>
    have hcolon : toString ":" ≠ "" := by decide
    simp [Output.locationText, String.append_eq_empty_iff, hcolon]

/-- After any calls a warning starts with the location of a line that stands, and with nothing only
when no line stands. The line is that of the path first mentioned last among those with a line, so
it is the line registered last exactly if no path with a line was first mentioned after its own. -/
theorem location_of_history (fatal : Bool) (calls : List Call) :
    let now := history ⟨fatal, []⟩ calls
    (∀ problem, ∃ rest, (now.warn problem).spans =
      ⟨.bold, Output.locationText now.trace.location?⟩ :: rest) ∧
    (Output.locationText now.trace.location? = "" ↔
      ∀ number path line, ¬ Stands fatal calls number path line) ∧
    (∀ path line, now.trace.location? = some (path, line) ↔
      (∃ number, Stands fatal calls number path line) ∧ MentionedLast fatal calls path) ∧
    ∀ number path line, StandsLatest fatal calls number path line →
      (now.trace.location? = some (path, line) ↔ MentionedLast fatal calls path) := by
  refine ⟨fun problem => ⟨_, rfl⟩, ?_, fun path line => location_eq_some, ?_⟩
  · rw [locationText_eq_empty, location_eq_none]
  · intro number path line hlatest
    rw [location_eq_some]
    exact and_iff_right ⟨number, hlatest.toStands⟩

/-- A path that is registered again keeps its place, so the other line is taken for the latest. -/
theorem location_of_history_not_latest :
    let calls : List Call := [.register "a" ⟨"x", 1⟩, .register "b" ⟨"y", 2⟩,
      .register "a" ⟨"z", 3⟩]
    StandsLatest false calls 2 "a" ⟨"z", 3⟩ ∧
      (history ⟨false, []⟩ calls).trace.location? = some ("b", ⟨"y", 2⟩) := by
  intro calls
  refine ⟨⟨⟨rfl, nofun⟩, ?_⟩, by decide +kernel⟩
  intro other path line hstands
  obtain ⟨hlt, -⟩ := List.getElem?_eq_some_iff.mp hstands.registered
  exact Nat.le_of_lt_succ hlt

end Calculator.Reporter
