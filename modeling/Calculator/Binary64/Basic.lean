/-!
# Binary floating-point numbers

The numbers of the language are the 64-bit binary floating-point numbers. A finite magnitude is
counted in units of 2^-1074, the smallest positive one, so that arithmetic is arithmetic on natural
numbers followed by at most one rounding. There is a single not-a-number.
-/

namespace Calculator

/-- Powers of natural numbers are one operation in all modules, whatever else these import. -/
@[default_instance high]
instance (priority := high) natPow : Pow Nat Nat :=
  instPowNat

namespace Binary64

/-- The distance between the neighbours of a magnitude: 53 bits are significant, and no distance is
below one unit. -/
def gap (units : Nat) : Nat :=
  2 ^ (units.log2 - 52)

def places : Nat :=
  1074

def one : Nat :=
  2 ^ places

/-- The magnitude 2^1024 in units, the first that is too large. -/
def limit : Nat :=
  2 ^ (1024 + places)

theorem one_pos : 0 < one :=
  Nat.two_pow_pos places

theorem limit_pos : 0 < limit :=
  Nat.two_pow_pos (1024 + places)

def Representable (units : Nat) : Prop :=
  units < limit ∧ gap units ∣ units

instance : DecidablePred Representable :=
  fun _ => inferInstanceAs (Decidable (_ ∧ _))

end Binary64

inductive Binary64 where
  | nan
  | infinite (negative : Bool)
  | finite (negative : Bool) (units : Nat) (representable : Binary64.Representable units)
deriving DecidableEq

namespace Binary64

/-! ## Rounding -/

/-- The natural number nearest to `num / den`; of two as near, the even one. -/
def nearest (num den : Nat) : Nat :=
  if 2 * (num % den) < den ∨ (2 * (num % den) = den ∧ num / den % 2 = 0) then num / den
  else num / den + 1

theorem div_le_nearest (num den : Nat) : num / den ≤ nearest num den := by
  unfold nearest
  split <;> omega

theorem nearest_le (num den : Nat) : nearest num den ≤ num / den + 1 := by
  unfold nearest
  split <;> omega

/-- The magnitude nearest to `num / den` units among those with 53 significant bits. -/
def roundUnits (num den : Nat) : Nat :=
  nearest num (den * gap (num / den)) * gap (num / den)

theorem gap_dvd_of_lt {m : Nat} (h : m < 2 ^ 53) (e : Nat) : gap (m * 2 ^ e) ∣ m * 2 ^ e := by
  by_cases hm : m = 0
  · simp [hm]
  · have hlt : m * 2 ^ e < 2 ^ (53 + e) := by
      rw [Nat.pow_add]
      exact Nat.mul_lt_mul_of_pos_right h (Nat.two_pow_pos e)
    have hne : m * 2 ^ e ≠ 0 := Nat.mul_ne_zero hm (Nat.ne_of_gt (Nat.two_pow_pos e))
    have hlog : (m * 2 ^ e).log2 < 53 + e := (Nat.log2_lt hne).2 hlt
    exact Nat.dvd_trans (Nat.pow_dvd_pow 2 (by omega)) (Nat.dvd_mul_left ..)

theorem gap_dvd_of_le {m : Nat} (h : m ≤ 2 ^ 53) (e : Nat) : gap (m * 2 ^ e) ∣ m * 2 ^ e := by
  rcases Nat.lt_or_eq_of_le h with h | rfl
  · exact gap_dvd_of_lt h e
  · have : 2 ^ 53 * 2 ^ e = 1 * 2 ^ (53 + e) := by rw [Nat.pow_add, Nat.one_mul]
    rw [this]
    exact gap_dvd_of_lt (by decide) _

theorem div_gap_lt (n : Nat) : n / gap n < 2 ^ 53 := by
  rw [gap, Nat.div_lt_iff_lt_mul (Nat.two_pow_pos _), ← Nat.pow_add]
  exact Nat.lt_of_lt_of_le Nat.lt_log2_self (Nat.pow_le_pow_right (by decide) (by omega))

theorem gap_dvd_roundUnits (num den : Nat) :
    gap (roundUnits num den) ∣ roundUnits num den := by
  refine gap_dvd_of_le (Nat.le_trans (nearest_le ..) ?_) _
  rw [← Nat.div_div_eq_div_mul]
  exact div_gap_lt _

/-- A magnitude with 53 significant bits, infinite from the limit on. -/
def ofUnits (negative : Bool) (units : Nat) (h : gap units ∣ units) : Binary64 :=
  if lt : units < limit then .finite negative units ⟨lt, h⟩ else .infinite negative

def round (negative : Bool) (num den : Nat) : Binary64 :=
  ofUnits negative (roundUnits num den) (gap_dvd_roundUnits num den)

/-! ## Zero, sign and whole numbers -/

def zero (negative : Bool) : Binary64 :=
  .finite negative 0 ⟨limit_pos, Nat.dvd_zero _⟩

def isFinite : Binary64 → Bool
  | .finite .. => true
  | _ => false

def isZero : Binary64 → Bool
  | .finite _ units _ => units == 0
  | _ => false

def neg : Binary64 → Binary64
  | .nan => .nan
  | .infinite negative => .infinite !negative
  | .finite negative units h => .finite (!negative) units h

def signed (negative : Bool) (magnitude : Nat) : Int :=
  if negative then -magnitude else magnitude

def ofInt (n : Int) : Binary64 :=
  round (n < 0) (n.natAbs * one) 1

def truncate? : Binary64 → Option Int
  | .finite negative units _ => some (signed negative (units / one))
  | _ => none

def toInt? : Binary64 → Option Int
  | .finite negative units _ =>
    if units % one = 0 then some (signed negative (units / one)) else none
  | _ => none

end Binary64

end Calculator
