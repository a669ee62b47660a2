/-!
# Nesting

Reading, evaluating and showing an expression all refuse it when its nesting reaches a limit. Without a
limit any depth is accepted. The room that is left for nesting depends on how deep the caller stands
itself, so the limits are those of a caller and not of the calculator.
-/

namespace Calculator

/-- The depth from which on an expression is refused, for a caller that leaves no other limit. -/
def nestingLimit : Nat :=
  1000

/-- What a caller leaves for the nesting of expressions. -/
structure NestingLimits where
  reading : Nat
  evaluation : Nat
  display : Nat
deriving DecidableEq, Repr

namespace NestingLimits

def usual : NestingLimits :=
  ⟨nestingLimit, nestingLimit, nestingLimit⟩

/-- What is left one call deeper. -/
def inner (limits : NestingLimits) : NestingLimits :=
  ⟨limits.reading - 1, limits.evaluation - 1, limits.display - 1⟩

end NestingLimits

def tooDeepAt (limit : Option Nat) (depth : Nat) : Bool :=
  limit.any (· ≤ depth)

def nestingMessage : String :=
  "expression is nested too deeply"

end Calculator
