import Calculator.Report.Turn

/-!
# Reporters

A reporter prints problems together with the lines of its trace. A fatal reporter ends the program
with the first error; any other forgets the lines of its trace and goes on.
-/

namespace Calculator

structure Reporter where
  fatal : Bool
  trace : Trace
deriving DecidableEq, Repr

namespace Reporter

def warn (reporter : Reporter) (problem : Problem) : Output :=
  .warning reporter.trace.location? problem

def report (reporter : Reporter) (problem : Problem) : Turn Reporter Unit :=
  let output := .report reporter.trace.lines problem
  if reporter.fatal then ⟨[output], reporter, .error (.exit (some 1))⟩
  else ⟨[output], { reporter with trace := reporter.trace.clear }, .ok ()⟩

def internalProblem (fault : Fault) : Problem :=
  ⟨.general, s!"unknown error: '{fault.name}: {fault.message}'", "", 0, 0, true, true⟩

/-- Deals with what a step has raised. Problems and interrupts are reported and then over; a fault
is reported and raised again; an exit is not touched. -/
def settle {α : Type} (reporter : Reporter) : Except Raised α → Turn Reporter (Option α)
  | .ok value => .done reporter (some value)
  | .error (.problem problem) => (reporter.report problem).andThen fun r _ => .done r none
  | .error .interrupt =>
    (reporter.report .interrupted).andThen fun r _ => .done r none
  | .error (.exit code) => .raise reporter (.exit code)
  | .error (.fault fault) =>
    (reporter.report (internalProblem fault)).andThen fun r _ => .raise r (.fault fault)

end Reporter

end Calculator
