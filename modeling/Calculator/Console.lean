import Calculator.Worksheet

/-!
# Consoles

A console evaluates the lines that a user enters, each at once, and knows a few commands. Nothing
that a line raises but a fault ends it.
-/

namespace Calculator

structure Console where
  worksheet : Worksheet
  lineNumber : Nat

namespace Console

inductive Command where
  | blank
  | help (topic : String)
  | exit (rest : String)
  | endOfInput
  | evaluate (line : String)
deriving DecidableEq, Repr

def isCommandPart (c : Char) : Bool :=
  'A' ≤ c && c ≤ 'Z' || 'a' ≤ c && c ≤ 'z' || '0' ≤ c && c ≤ '9' || c == '_'

/-- A command is the first word of a line, and what follows it is its argument. -/
def Command.ofWords (line : List Char) : Command :=
  let rest := String.ofList (Text.trim (line.dropWhile isCommandPart))
  match String.ofList (line.takeWhile isCommandPart) with
  | "help" => .help rest
  | "exit" => .exit rest
  | "EOF" => .endOfInput
  | _ => .evaluate (String.ofList line)

def Command.ofLine (line : String) : Command :=
  match Text.trim line.toList with
  | [] => .blank
  | '?' :: rest => .ofWords ("help ".toList ++ rest)
  | cs => .ofWords cs

/-- A console never ends with an error. -/
def new (worksheet : Worksheet) : Console :=
  ⟨{ worksheet with reporter := { worksheet.reporter with fatal := false } }, 0⟩

def withLimits (console : Console) (limits : NestingLimits) : Console :=
  { console with worksheet := console.worksheet.withLimits limits }

def settle (console : Console) (turn : Turn Worksheet Unit) : Turn Console Unit :=
  ((Worksheet.settle turn).mapState fun worksheet => { console with worksheet }).andThen
    fun console _ => .done console ()

def complain (console : Console) (problem : Problem) : Turn Console Unit :=
  console.settle (.raise console.worksheet (.problem problem))

def evaluate (console : Console) (line : String) : Turn Console Unit :=
  let number := console.lineNumber + 1
  { console with lineNumber := number }.settle <|
    (console.worksheet.add line number).andThen fun sheet _ =>
      sheet.run.andThen fun sheet _ => sheet.printResults

/-- Evaluates a line one call deeper than others. -/
def evaluateInner (console : Console) (line : String) : Turn Console Unit :=
  let limits := console.worksheet.limits
  ((console.withLimits limits.inner).evaluate line).mapState (·.withLimits limits)

def help (console : Console) (topic : String) : Turn Console Unit :=
  match Builtin.named? topic with
  | some f => ⟨[.usage f], console, .ok ()⟩
  | none =>
    if topic.isEmpty then ⟨[.welcome], console, .ok ()⟩
    else console.complain (.unlocated .general (EvalError.unknownFunction topic).message)

/-- The answer says whether the console ends, for the commands that decide it. -/
def perform (console : Console) : Command → Turn Console (Option Bool)
  | .blank => (console.complain .noInput).andThen fun console _ => .done console none
  | .help topic => (console.help topic).andThen fun console _ => .done console none
  | .evaluate line => (console.evaluate line).andThen fun console _ => .done console none
  | .exit rest =>
    if rest.isEmpty then .done console (some true)
    else
      (console.evaluateInner ("exit" ++ rest)).andThen fun console _ => .done console (some false)
  | .endOfInput => ⟨[.newLine], console, .ok (some true)⟩

def respond (console : Console) (line : String) : Turn Console (Option Bool) :=
  console.perform (.ofLine line)

def endOfInputLine : String :=
  "EOF"

def interact (console : Console) : List String → Turn Console Unit
  | [] =>
    ((console.respond endOfInputLine).after [.prompt]).andThen fun console _ => .done console ()
  | line :: lines =>
    ((console.respond line).after [.prompt]).andThen fun console answer =>
      if answer = some true then .done console () else console.interact lines

end Console

end Calculator
