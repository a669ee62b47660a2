/-!
# Traces

A trace holds the paths that lines are read from, in the order in which they were first mentioned,
each with the line that is being worked on, if any. A path once mentioned stays.
-/

namespace Calculator

structure Line where
  text : String
  number : Int
deriving DecidableEq, Repr

abbrev Trace := List (String × Option Line)

namespace Trace

/-- Sets the line of a path, in its place if the path is there. -/
def set (path : String) (line : Option Line) : Trace → Trace
  | [] => [(path, line)]
  | (p, l) :: rest => if p = path then (p, line) :: rest else (p, l) :: set path line rest

def register (trace : Trace) (path : String) (line : Line) : Trace :=
  trace.set path (some line)

def release (trace : Trace) (path : String) : Trace :=
  trace.set path none

def clear (trace : Trace) : Trace :=
  trace.map fun entry => (entry.1, none)

def lines (trace : Trace) : List (String × Line) :=
  trace.filterMap fun entry => entry.2.map fun line => (entry.1, line)

/-- The line of the path mentioned last among those with a line. -/
def location? (trace : Trace) : Option (String × Line) :=
  trace.lines.getLast?

end Trace

end Calculator
