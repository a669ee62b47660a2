import Calculator.Value

/-!
# Requirements on arguments

A built-in function asks for a number of arguments and possibly for arguments of one kind.
-/

namespace Calculator

structure Requirement where
  count : Nat
  kind : Option Value.Kind
  usage : String
deriving DecidableEq, Repr

namespace Requirement

def isMetBy (requirement : Requirement) (arguments : List Value) : Bool :=
  arguments.length == requirement.count &&
    arguments.all fun argument => requirement.kind.all (· == argument.kind)

def message (requirement : Requirement) : String :=
  let noun := if requirement.count = 1 then "argument" else "arguments"
  let described := match requirement.kind with
    | some kind => s!"{kind.adjective} {noun}"
    | none => noun
  s!"required {requirement.count} {described}: {requirement.usage}"

end Requirement

end Calculator
