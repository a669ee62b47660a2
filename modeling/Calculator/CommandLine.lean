import Calculator.Text.Integer
import Calculator.Worksheet

/-!
# The command line

Arguments are switches, values of switches, and at most one file. A switch takes its value from the
same argument or from the next one, long switches can be shortened as long as one is meant, and two
dashes end the switches. What looks like a negative number, holds a space or is a single dash is no
switch unless it is spelled like one. Two dashes attached to a switch stand for no value at all.

All arguments are told apart before the first is carried out, so a switch that could mean several
is refused even behind the switch for help.
-/

namespace Calculator.CommandLine

structure Options where
  expression : Option String
  file : Option String
  precision : Precision
  showTree : Bool
deriving DecidableEq, Repr

def Options.initial : Options :=
  ⟨none, none, Worksheet.defaultPrecision, false⟩

/-- Why a command line is not carried out. -/
inductive Refusal where
  | help
  | misuse
deriving DecidableEq, Repr

inductive Switch where
  | help
  | expression
  | precision
  | tree
deriving DecidableEq, Repr

def switches : List Switch :=
  [.help, .expression, .precision, .tree]

def Switch.long : Switch → String
  | .help => "--help"
  | .expression => "--expr"
  | .precision => "--precision"
  | .tree => "--tree"

def Switch.short? : Switch → Option String
  | .help => some "-h"
  | .expression => some "-e"
  | .precision => some "-p"
  | .tree => none

def spelledOut? (spelling : List Char) : Option Switch :=
  switches.find? fun s =>
    s.long.toList == spelling || s.short?.any (·.toList == spelling)

inductive Argument where
  | value (text : String)
  /-- Two dashes, behind which there are values only. -/
  | separator
  /-- A switch with the text attached to it. -/
  | switch (switch : Switch) (attached : Option String)
  /-- The short switch for help with letters behind it. -/
  | helpAnd (letters : List Char)
  | unknown
deriving DecidableEq, Repr

def beforeEquals (cs : List Char) : List Char :=
  cs.takeWhile (· != '=')

def attachment? (cs : List Char) : Option String :=
  match cs.dropWhile (· != '=') with
  | [] => none
  | _ :: value => some (String.ofList value)

/-- A dash and digits with at most one point, which has a digit after it. A line feed may follow. -/
def isNegativeNumber : List Char → Bool
  | '-' :: cs =>
    let body := if cs.getLast? = some '\n' then cs.dropLast else cs
    match body.dropWhile Text.isDecimalDigit with
    | [] => !body.isEmpty
    | '.' :: fraction => !fraction.isEmpty && fraction.all Text.isDecimalDigit
    | _ => false
  | _ => false

/-- An argument with a dash that spells no switch. -/
def unspelled (cs : List Char) : Argument :=
  if isNegativeNumber cs || cs.contains ' ' then .value (String.ofList cs) else .unknown

def long (cs : List Char) : Except Refusal Argument :=
  match switches.filter fun s => (beforeEquals cs).isPrefixOf s.long.toList with
  | [] => .ok (unspelled cs)
  | [s] => .ok (.switch s (attachment? cs))
  | _ => .error .misuse

def short (mark letter : Char) (cs : List Char) : Argument :=
  match spelledOut? [mark, letter] with
  | some .help => .helpAnd cs
  | some s => .switch s (some (String.ofList cs))
  | none => unspelled (mark :: letter :: cs)

def Argument.ofString (text : String) : Except Refusal Argument :=
  match text.toList with
  | '-' :: c :: cs =>
    match spelledOut? ('-' :: c :: cs), spelledOut? (beforeEquals ('-' :: c :: cs)) with
    | some s, _ => .ok (.switch s none)
    | none, some s => .ok (.switch s (attachment? ('-' :: c :: cs)))
    | none, none => if c = '-' then long ('-' :: c :: cs) else .ok (short '-' c cs)
  | _ => .ok (.value text)

def arguments : List String → Except Refusal (List Argument)
  | [] => .ok []
  | text :: rest =>
    if text = "--" then .ok (.separator :: rest.map .value)
    else do
      let argument ← Argument.ofString text
      return argument :: (← arguments rest)

def Options.set (options : Options) (switch : Switch) (value : Option String) :
    Except Refusal Options :=
  match switch, value with
  | .expression, value => .ok { options with expression := some (value.getD "") }
  | .precision, none => .ok { options with precision := .missing }
  | .precision, some value =>
    match Text.readInteger? value with
    | some n => .ok { options with precision := .places n }
    | none => .error .misuse
  | .help, _ | .tree, _ => .error .misuse

/-- The value that is attached to a switch, unless two dashes stand for none. -/
def attachedValue? (text : String) : Option String :=
  if text = "--" then none else some text

/-- Letters behind the short switch for help are further switches. Help is given unless a letter is
unknown or a switch lacks its value, for which the next argument will do. -/
def Refusal.ofLetters (valueFollows : Bool) : List Char → Refusal
  | [] => .help
  | letter :: cs =>
    match spelledOut? ['-', letter] with
    | some .help => ofLetters valueFollows cs
    | some _ => if valueFollows || !cs.isEmpty then .help else .misuse
    | none => .misuse

def startsWithValue : List Argument → Bool
  | .value _ :: _ => true
  | _ => false

/-- Behind two dashes there is at most the file. -/
def readRest (options : Options) : List Argument → Except Refusal Options
  | [] => if options.file.isNone then .ok options else .error .misuse
  | [.value file] =>
    if options.file.isNone then .ok { options with file := some file } else .error .misuse
  | _ => .error .misuse

/-- Carries out arguments in order. One that has no place is refused at the end, so that help can
still be asked for behind it. -/
def readFrom (options : Options) : List Argument → Except Refusal Options
  | [] => .ok options
  | .value file :: rest =>
    if options.file.isSome then do
      let _ ← readFrom options rest
      .error .misuse
    else if rest = [.separator] then .ok { options with file := some file }
    else readFrom { options with file := some file } rest
  | .unknown :: rest => do
    let _ ← readFrom options rest
    .error .misuse
  | .separator :: rest => readRest options rest
  | .helpAnd letters :: rest => .error (.ofLetters (startsWithValue rest) letters)
  | .switch .help none :: _ => .error .help
  | .switch .tree none :: rest => readFrom { options with showTree := true } rest
  | .switch s (some text) :: rest => do readFrom (← options.set s (attachedValue? text)) rest
  | .switch s none :: .value text :: rest => do readFrom (← options.set s (some text)) rest
  | .switch _ none :: _ => .error .misuse

def read (texts : List String) : Except Refusal Options := do
  readFrom .initial (← arguments texts)

end Calculator.CommandLine
