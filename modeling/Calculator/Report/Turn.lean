import Calculator.Fault
import Calculator.Report.Output

/-!
# Turns

A turn is what one step does: what it prints, the state that it leaves behind, and its result or
what it raises. The state and what was printed are kept when something is raised.
-/

namespace Calculator

/-- What can end a step early. -/
inductive Raised where
  | problem (problem : Problem)
  | interrupt
  | exit (code : Option Int)
  | fault (fault : Fault)
deriving DecidableEq

structure Turn (σ α : Type) where
  outputs : List Output
  state : σ
  result : Except Raised α

namespace Turn

variable {σ τ α β : Type}

def done (state : σ) (value : α) : Turn σ α :=
  ⟨[], state, .ok value⟩

def raise (state : σ) (raised : Raised) : Turn σ α :=
  ⟨[], state, .error raised⟩

def after (outputs : List Output) (turn : Turn σ α) : Turn σ α :=
  { turn with outputs := outputs ++ turn.outputs }

/-- Goes on with the state and the result unless something was raised. -/
def andThen (turn : Turn σ α) (next : σ → α → Turn σ β) : Turn σ β :=
  match turn.result with
  | .ok value => (next turn.state value).after turn.outputs
  | .error raised => ⟨turn.outputs, turn.state, .error raised⟩

def map (f : α → β) (turn : Turn σ α) : Turn σ β :=
  ⟨turn.outputs, turn.state, turn.result.map f⟩

def mapState (f : σ → τ) (turn : Turn σ α) : Turn τ α :=
  ⟨turn.outputs, f turn.state, turn.result⟩

end Turn

end Calculator
