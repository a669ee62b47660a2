import Calculator.CommandLine
import Calculator.Console

/-!
# The program

One expression, a file of expressions, or a console, as the command line asks. The program is a
function from its arguments, the files that can be opened and the lines of the input to what it
prints and how it ends. The limits on nesting are those of the way that the arguments ask for.
-/

namespace Calculator.Program

inductive Ending where
  | exit (code : Int)
  | crash (fault : Fault)
deriving DecidableEq

def ending : Except Raised (Option Unit) → Ending
  | .ok _ => .exit 0
  | .error (.exit code) => .exit (code.getD 0)
  | .error (.fault fault) => .crash fault
  | .error (.problem _) | .error .interrupt => .exit 1

def finish (turn : Turn Worksheet Unit) : List Output × Ending :=
  let settled := Worksheet.settle turn
  (settled.outputs, ending settled.result)

def sheet (options : CommandLine.Options) (limits : NestingLimits := .usual) : Worksheet :=
  .blank ⟨true, []⟩ options.precision options.showTree .builtins limits

def evaluateOne (options : CommandLine.Options) (source : String)
    (limits : NestingLimits := .usual) : Turn Worksheet Unit :=
  ((sheet options limits).add source 1).andThen fun sheet _ =>
    sheet.run.andThen fun sheet _ =>
      sheet.pop.andThen fun sheet result => ⟨[.result result], sheet, .ok ()⟩

/-- The results up to a failure are printed before the failure is dealt with. -/
def runAndPrint (sheet : Worksheet) : Turn Worksheet Unit :=
  let turn := sheet.run
  let printed := turn.state.printResults
  ⟨turn.outputs ++ printed.outputs, printed.state, turn.result⟩

def evaluateFile (options : CommandLine.Options) (path : String) (content : Option String)
    (limits : NestingLimits := .usual) : Turn Worksheet Unit :=
  ((sheet options limits).load path content).andThen fun sheet _ => runAndPrint sheet

def console (options : CommandLine.Options) (limits : NestingLimits := .usual) : Console :=
  .new (sheet options limits)

def interact (options : CommandLine.Options) (lines : List String)
    (limits : NestingLimits := .usual) : Turn Worksheet Unit :=
  (((console options limits).interact lines).mapState Console.worksheet).after [.introduction]

/-- An expression on the command line wins over a file. -/
def carryOut (options : CommandLine.Options) (files : String → Option String)
    (lines : List String) (limits : NestingLimits := .usual) : Turn Worksheet Unit :=
  match options.expression, options.file with
  | some source, _ => evaluateOne options source limits
  | none, some path => evaluateFile options path (files path) limits
  | none, none => interact options lines limits

def run (arguments : List String) (files : String → Option String) (lines : List String)
    (limits : NestingLimits := .usual) : List Output × Ending :=
  match CommandLine.read arguments with
  | .ok options => finish (carryOut options files lines limits)
  | .error .help => ([], .exit 0)
  | .error .misuse => ([], .exit 2)

end Calculator.Program
