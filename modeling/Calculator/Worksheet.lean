import Calculator.Calculation
import Calculator.Report.Reporter
import Calculator.SourceLine
import Calculator.Value.Display

/-!
# Worksheets

A worksheet takes expressions line by line, evaluates those that wait in order, and keeps the
displayed results until they are taken. A worksheet that reads a file registers the line that it is
working on with its reporter, so that a problem is reported at that line.
-/

namespace Calculator

structure Entry where
  line : Int
  source : String
  expr : Expr

structure Worksheet where
  reporter : Reporter
  path : Option String
  precision : Precision
  showTree : Bool
  functions : Registry
  limits : NestingLimits
  queue : List Entry
  results : List String

namespace Worksheet

def defaultPrecision : Precision :=
  .places 4

def blank (reporter : Reporter) (precision : Precision) (showTree : Bool)
    (functions : Registry) (limits : NestingLimits := .usual) : Worksheet :=
  ⟨reporter, none, precision, showTree, functions, limits, [], []⟩

def withLimits (sheet : Worksheet) (limits : NestingLimits) : Worksheet :=
  { sheet with limits }

def mapTrace (f : Trace → String → Trace) (sheet : Worksheet) : Worksheet :=
  match sheet.path with
  | some path =>
    { sheet with reporter := { sheet.reporter with trace := f sheet.reporter.trace path } }
  | none => sheet

def register (sheet : Worksheet) (source : String) (line : Int) : Worksheet :=
  sheet.mapTrace fun trace path => trace.register path ⟨source, line⟩

def release (sheet : Worksheet) : Worksheet :=
  sheet.mapTrace Trace.release

/-- Adds an entry at the end, or in the place of the entry of the same line. -/
def enqueue (entry : Entry) : List Entry → List Entry
  | [] => [entry]
  | e :: rest => if e.line = entry.line then entry :: rest else e :: enqueue entry rest

def shown (sheet : Worksheet) (e : Expr) : Except Fault (List Output) :=
  if sheet.showTree then (e.checkOutline sheet.limits.display).map fun _ => [.tree e] else .ok []

/-- Takes the expression of a line. When it cannot be read or shown the line stays registered. -/
def add (sheet : Worksheet) (source : String) (line : Int) : Turn Worksheet Unit :=
  match parse source sheet.limits.reading with
  | .ok none => .raise sheet (.problem .noInput)
  | .error problem => .raise (sheet.register source line) (.problem problem)
  | .ok (some e) =>
    match sheet.shown e with
    | .error fault => .raise (sheet.register source line) (.fault fault)
    | .ok outputs =>
      ⟨outputs, { sheet with queue := enqueue ⟨line, source, e⟩ sheet.queue }.release, .ok ()⟩

def nonFiniteWarning (sheet : Worksheet) (source : String) : Value → List Output
  | .number x =>
    if x.isFinite then []
    else
      let message := s!"'{source}' does not have a finite result"
      [sheet.reporter.warn (.unlocated .general message)]
  | .text _ => []

def keep (sheet : Worksheet) (source : String) (value : Value) : Turn Worksheet Unit :=
  match value.display sheet.precision with
  | .error fault => ⟨sheet.nonFiniteWarning source value, sheet, .error (.fault fault)⟩
  | .ok text =>
    ⟨sheet.nonFiniteWarning source value,
      { sheet with results := sheet.results ++ [text] }.release, .ok ()⟩

/-- Evaluates an entry that has left the queue. When it fails its line stays registered. -/
def evaluateEntry (sheet : Worksheet) (entry : Entry) : Turn Worksheet Unit :=
  let sheet := sheet.register entry.source entry.line
  match reduce sheet.functions entry.source entry.expr sheet.limits.evaluation with
  | .error problem => .raise sheet (.problem problem)
  | .ok value => sheet.keep entry.source value

/-- Evaluates entries in order up to the first failure. An entry leaves the queue before it is
evaluated, so that later entries wait for the next run. -/
def runEntries (sheet : Worksheet) : List Entry → Turn Worksheet Unit
  | [] => .done { sheet with queue := [] } ()
  | entry :: rest =>
    ({ sheet with queue := rest }.evaluateEntry entry).andThen fun sheet _ =>
      sheet.runEntries rest

def run (sheet : Worksheet) : Turn Worksheet Unit :=
  sheet.runEntries sheet.queue

def pop (sheet : Worksheet) : Turn Worksheet String :=
  match sheet.results with
  | [] => .raise sheet (.fault .noResult)
  | result :: results => .done { sheet with results } result

def printResults (sheet : Worksheet) : Turn Worksheet Unit :=
  ⟨sheet.results.map .result, { sheet with results := [] }, .ok ()⟩

def settle {α : Type} (turn : Turn Worksheet α) : Turn Worksheet (Option α) :=
  ((turn.state.reporter.settle turn.result).mapState fun reporter =>
    { turn.state with reporter }).after turn.outputs

/-! ## Files -/

def addLines (sheet : Worksheet) : List (String × Int) → Turn Worksheet Unit
  | [] => .done sheet ()
  | (source, line) :: rest => (sheet.add source line).andThen fun sheet _ => sheet.addLines rest

/-- Takes the lines of a file, whose content is none when it cannot be opened. -/
def load (sheet : Worksheet) (path : String) (content : Option String) : Turn Worksheet Unit :=
  let sheet := { sheet with path := some path }.release
  match content with
  | none => .raise sheet (.problem (.notOpened path))
  | some content => sheet.addLines (SourceLine.ofFile content)

end Worksheet

end Calculator
