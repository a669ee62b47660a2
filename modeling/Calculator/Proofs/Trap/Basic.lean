import Calculator.Value

/-!
# Traps

Many operations that a calculation is made of are partial: outside their domain they trap, and a
trap ends the calculation unless a handler names it. A computation of this kind is `contained` when
no trap is left over, so that it fails with errors of the language only.
-/

namespace Calculator

/-- What a partial operation raises outside its domain. -/
inductive Trap where
  | invalidValue
  | invalidEncoding
  | overflow
  | zeroDivision
  | missingKey
  | outOfRange
  | wrongKind
  | recursion
deriving DecidableEq, Repr

/-- A failure is an error that the language has, or a trap. -/
inductive Failure (ε : Type) where
  | error (error : ε)
  | trap (trap : Trap)
deriving DecidableEq

abbrev Trapping (ε α : Type) := Except (Failure ε) α

namespace Trapping

variable {ε δ α β : Type}

def trap (trap : Trap) : Trapping ε α :=
  .error (.trap trap)

def raise (error : ε) : Trapping ε α :=
  .error (.error error)

def contained : Except ε α → Trapping ε α
  | .ok a => .ok a
  | .error error => raise error

/-- A handler takes over from the traps that are named, and from no other failure. -/
def handle (caught : List Trap) (x handler : Trapping ε α) : Trapping ε α :=
  match x with
  | .error (.trap trap) => if trap ∈ caught then handler else x
  | x => x

/-- A computation whose nesting the machine limits: being too deep is a trap, not yet an error. -/
def limited [DecidableEq ε] (tooDeep : ε) : Except ε α → Trapping ε α
  | .ok a => .ok a
  | .error error => if error = tooDeep then trap .recursion else raise error

/-- A partial operation, which traps where it has no result. -/
def demand (t : Trap) : Option α → Trapping ε α
  | some a => .ok a
  | none => trap t

def mapError (f : ε → δ) : Trapping ε α → Trapping δ α
  | .ok a => .ok a
  | .error (.error error) => raise (f error)
  | .error (.trap t) => trap t

/-! ## Partial operations on lists and values -/

def item (l : List α) (i : Nat) : Trapping ε α :=
  demand .outOfRange l[i]?

def keyed [BEq β] (key : β) (table : List (β × α)) : Trapping ε α :=
  demand .missingKey (table.lookup key)

def place [BEq α] (a : α) (l : List α) : Trapping ε Nat :=
  demand .invalidValue (l.idxOf? a)

def three : List α → Trapping ε (α × α × α)
  | [a, b, c] => .ok (a, b, c)
  | _ => trap .invalidValue

def asNumber : Value → Trapping ε Binary64
  | .number x => .ok x
  | .text _ => trap .wrongKind

def asText : Value → Trapping ε String
  | .number _ => trap .wrongKind
  | .text content => .ok content

/-! ## Composition -/

@[simp] theorem ok_bind (a : α) (f : α → Trapping ε β) : (Except.ok a >>= f) = f a := rfl

@[simp] theorem trap_bind (t : Trap) (f : α → Trapping ε β) : (trap t >>= f) = trap t := rfl

@[simp] theorem raise_bind (error : ε) (f : α → Trapping ε β) :
    (raise error >>= f) = raise error := rfl

@[simp] theorem demand_some (t : Trap) (a : α) : (demand t (some a) : Trapping ε α) = .ok a := rfl

theorem contained_bind (x : Except ε α) (f : α → Except ε β) :
    contained (x >>= f) = (contained x >>= fun a => contained (f a)) := by
  cases x <;> rfl

theorem handle_trap {caught : List Trap} {t : Trap} (h : t ∈ caught) (handler : Trapping ε α) :
    handle caught (trap t) handler = handler :=
  if_pos h

theorem limited_bind [DecidableEq ε] (tooDeep : ε) (x : Except ε α) (f : α → Except ε β) :
    limited tooDeep (x >>= f) = (limited tooDeep x >>= fun a => limited tooDeep (f a)) := by
  cases x with
  | ok => rfl
  | error error =>
    change limited tooDeep (.error error) = (limited tooDeep (.error error) >>= _)
    by_cases h : error = tooDeep <;> simp [limited, h]

theorem limited_of_ne [DecidableEq ε] {tooDeep : ε} {x : Except ε α} (h : x ≠ .error tooDeep) :
    limited tooDeep x = contained x := by
  cases x with
  | ok => rfl
  | error error => exact if_neg fun heq => h (congrArg Except.error heq)

theorem handle_limited [DecidableEq ε] (tooDeep : ε) (x : Except ε α) :
    handle [.recursion] (limited tooDeep x) (raise tooDeep) = contained x := by
  cases x with
  | ok => rfl
  | error error =>
    by_cases h : error = tooDeep
    · rw [limited, if_pos h, h]
      exact handle_trap List.mem_cons_self _
    · rw [limited, if_neg h]
      rfl

theorem mapError_contained (f : ε → δ) (x : Except ε α) :
    mapError f (contained x) = contained (x.mapError f) := by
  cases x <;> rfl

end Trapping

end Calculator
