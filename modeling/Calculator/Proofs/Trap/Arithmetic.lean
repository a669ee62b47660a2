import Calculator.Evaluation
import Calculator.Proofs.Binary64.Rounding
import Calculator.Proofs.Trap.Basic
import Calculator.Text.Integer

/-!
# Partial arithmetic

Division, remainder, the functions of an angle and the conversions between integers and binary
numbers are partial. The operators of the language test for what is outside the domain first, and so
have a result for all operands (`divide_eq`, `modulo_eq`, `ofAngle_eq`).
-/

namespace Calculator

namespace Binary64

def isInfinite : Binary64 → Bool
  | .infinite _ => true
  | _ => false

def isNegative : Binary64 → Bool
  | .nan => false
  | .infinite negative | .finite negative _ _ => negative

def copySign (x y : Binary64) : Binary64 :=
  if x.isNegative = y.isNegative then x else x.neg

theorem ofInt_one : ∃ h, ofInt 1 = .finite false one h := by
  refine ⟨?_, ?_⟩ <;> decide +kernel

theorem copySign_infinite (y : Binary64) :
    (infinite false).copySign y = infinite y.isNegative := by
  unfold copySign
  cases y.isNegative <;> rfl

theorem copySign_one (y : Binary64) :
    ∃ h, (ofInt 1).copySign y = .finite y.isNegative one h := by
  obtain ⟨h, hone⟩ := ofInt_one
  refine ⟨h, ?_⟩
  rw [hone, copySign]
  cases y.isNegative <;> rfl

theorem mul_copySign_one (a : Bool) (y : Binary64) :
    (infinite a).mul ((ofInt 1).copySign y) = infinite (a != y.isNegative) := by
  obtain ⟨h, hone⟩ := copySign_one y
  rw [hone, mul, if_neg (Nat.ne_of_gt one_pos)]

end Binary64

namespace Trapping

open Binary64

variable {ε : Type}

/-! ## The partial operations -/

def quotient (x y : Binary64) : Trapping ε Binary64 :=
  if y.isZero then trap .zeroDivision else .ok (x.div y)

def remainder : Binary64 → Binary64 → Trapping ε Binary64
  | .nan, _ | _, .nan => .ok .nan
  | .infinite _, _ => trap .invalidValue
  | x, y => if y.isZero then trap .invalidValue else .ok (x.rem y)

def angular (f : Binary64 → Binary64) (x : Binary64) : Trapping ε Binary64 :=
  if x.isInfinite then trap .invalidValue else .ok (f x)

def truncate : Binary64 → Trapping ε Int
  | .nan => trap .invalidValue
  | .infinite _ => trap .overflow
  | .finite negative units _ => .ok (signed negative (units / one))

def ofInteger (n : Int) : Trapping ε Binary64 :=
  if (Binary64.ofInt n).isFinite then .ok (.ofInt n) else trap .overflow

/-- The decimal digits of an integer, of which there is a largest number. -/
def showInteger (n : Int) : Trapping ε String :=
  if n.natAbs < 10 ^ Text.maxIntegerDigits then .ok (toString n) else trap .invalidValue

/-! ## The operations of the language -/

def divide (x y : Binary64) : Trapping ε Binary64 :=
  if y.isZero then
    if x.isZero ∨ x = .nan then .ok .nan
    else .ok (((infinite false).copySign x).mul ((ofInt 1).copySign y))
  else quotient x y

def modulo (x y : Binary64) : Trapping ε Binary64 :=
  if y.isZero ∨ x.isInfinite then .ok .nan else remainder x y

def ofAngle (f : Binary64 → Binary64) (x : Binary64) : Trapping ε Binary64 :=
  if x.isInfinite then .ok .nan else angular f x

theorem divide_eq (x y : Binary64) : (divide x y : Trapping ε Binary64) = .ok (x.div y) := by
  unfold divide quotient
  split
  · next hy =>
    rw [copySign_infinite, mul_copySign_one]
    cases y with
    | nan | infinite => cases hy
    | finite b n hn =>
      obtain rfl : n = 0 := by simpa [isZero] using hy
      cases x with
      | nan => simp [div]
      | infinite a => simp [div, isZero, isNegative]
      | finite a m hm => by_cases hm : m = 0 <;> simp [div, isZero, isNegative, hm]
  · rfl

example : (quotient (.infinite false) (.zero true) : Trapping Unit Binary64) = trap .zeroDivision :=
  rfl

theorem modulo_eq (x y : Binary64) : (modulo x y : Trapping ε Binary64) = .ok (x.rem y) := by
  unfold modulo
  split
  · next h =>
    rcases h with hy | hx
    · cases y with
      | nan | infinite => cases hy
      | finite b n hn =>
        have hn : n = 0 := by simpa [isZero] using hy
        cases x <;> simp [rem, hn]
    · cases x with
      | nan | finite => cases hx
      | infinite a => simp [rem]
  · next h =>
    obtain ⟨hy, hx⟩ := not_or.mp h
    cases x with
    | infinite a => exact absurd rfl hx
    | nan => simp [remainder, rem]
    | finite a m hm => cases y <;> simp [remainder, rem, hy]

theorem ofAngle_eq {f : Binary64 → Binary64} (h : ∀ a, f (infinite a) = .nan) (x : Binary64) :
    (ofAngle f x : Trapping ε Binary64) = .ok (f x) := by
  unfold ofAngle angular
  split
  · next hx =>
    cases x with
    | nan | finite => cases hx
    | infinite a => rw [h]
  · rfl

/-! ## Conversions -/

theorem truncate?_of_toInt? {x : Binary64} {n : Int} (h : x.toInt? = some n) :
    x.truncate? = some n := by
  cases x with
  | nan | infinite => cases h
  | finite a m hm =>
    rw [toInt?] at h
    by_cases hwhole : m % one = 0
    · rwa [if_pos hwhole] at h
    · rw [if_neg hwhole] at h
      cases h

theorem truncate_eq {x : Binary64} {n : Int} (h : x.truncate? = some n) :
    (truncate x : Trapping ε Int) = .ok n := by
  cases x with
  | nan | infinite => cases h
  | finite => exact congrArg Except.ok (Option.some.inj h)

theorem natAbs_truncate?_lt {x : Binary64} {n : Int} (h : x.truncate? = some n) :
    n.natAbs < 2 ^ 1024 := by
  cases x with
  | nan | infinite => cases h
  | finite negative units hrep =>
    have hlt : units / one < 2 ^ 1024 := by
      rw [Nat.div_lt_iff_lt_mul Binary64.one_pos, one, ← Nat.pow_add]
      exact hrep.1
    have hn : signed negative (units / one) = n := Option.some.inj h
    rwa [← hn, natAbs_signed]

theorem showInteger_eq {n : Int} (h : n.natAbs < 2 ^ 1024) :
    (showInteger n : Trapping ε String) = .ok (toString n) := by
  have hle : 2 ^ 1024 ≤ 10 ^ Text.maxIntegerDigits := by decide +kernel
  exact if_pos (Nat.lt_of_lt_of_le h hle)

theorem handle_truncate {caught : List Trap} (hvalue : .invalidValue ∈ caught)
    (hoverflow : .overflow ∈ caught) (x : Binary64) (error : ε) :
    handle caught (truncate x) (raise error) =
      contained (match x.truncate? with | some n => .ok n | none => .error error) := by
  cases x with
  | nan => exact handle_trap hvalue _
  | infinite => exact handle_trap hoverflow _
  | finite => rfl

end Trapping

end Calculator
