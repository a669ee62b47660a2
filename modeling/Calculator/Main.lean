import Calculator.Program

/-!
# The outer layer

Arguments, files, input lines and the terminal.
-/

namespace Calculator

def usageText : String :=
  "usage: calculator [-h] [-e EXPR] [-p PRECISION] [--tree] [file]\n\n" ++
  "Evaluates a file of expressions, one a line, or a single expression. Without either,\n" ++
  "expressions are entered one by one.\n\n" ++
  "  -e, --expr EXPR            evaluate a single expression and exit\n" ++
  "  -p, --precision PRECISION  decimal places shown for numbers that are not whole (4)\n" ++
  "  --tree                     print the tree of each expression\n" ++
  "  -h, --help                 show this help and exit\n"

def printAll (color : Bool) (outputs : List Output) : IO Unit := do
  let out ← IO.getStdout
  out.putStr (Output.renderAll color outputs)
  out.flush

/-- The content of a file, if it can be read as text. -/
def fileContent (path : String) : IO (Option String) := do
  try
    let content ← IO.FS.readFile path
    return some content
  catch _ => return none

/-- Prompts for lines and answers them until the console ends. -/
partial def converse (color : Bool) (console : Console) : IO (Turn Worksheet Unit) := do
  printAll color [.prompt]
  let entered ← (← IO.getStdin).getLine
  let line := if entered.isEmpty then Console.endOfInputLine else entered.dropEndWhile '\n'
    |>.toString
  let turn := console.respond line
  printAll color turn.outputs
  match turn.result with
  | .error raised => return ⟨[], turn.state.worksheet, .error raised⟩
  | .ok answer =>
    if entered.isEmpty || answer = some true then return .done turn.state.worksheet ()
    else converse color turn.state

/-- The turn of the whole program, with everything printed but what its end prints. -/
def carryOut (color : Bool) (options : CommandLine.Options) : IO (Turn Worksheet Unit) := do
  match options.expression, options.file with
  | none, none =>
    printAll color [.introduction]
    converse color (Program.console options)
  | some source, _ => return Program.evaluateOne options source
  | none, some path => return Program.evaluateFile options path (← fileContent path)

def exitCode : Program.Ending → IO UInt32
  | .exit code => return code.toNat.toUInt32
  | .crash fault => do
    IO.eprintln s!"{fault.name}: {fault.message}"
    return 1

end Calculator

open Calculator in
def main (arguments : List String) : IO UInt32 := do
  match CommandLine.read arguments with
  | .error .help =>
    IO.print usageText
    return 0
  | .error .misuse =>
    IO.eprint usageText
    return 2
  | .ok options =>
    let color := (← (← IO.getStdout).isTty) && (← IO.getEnv "NO_COLOR").isNone
    let (outputs, ending) := Program.finish (← carryOut color options)
    printAll color outputs
    exitCode ending
