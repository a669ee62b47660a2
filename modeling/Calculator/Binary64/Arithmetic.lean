import Calculator.Binary64.Basic

/-!
# Arithmetic

Each operation is the exact result rounded once, with the signs of zero and infinity of the binary
floating-point standard. A remainder needs no rounding.
-/

namespace Calculator.Binary64

def add : Binary64 → Binary64 → Binary64
  | .nan, _ | _, .nan => .nan
  | .infinite a, .infinite b => if a = b then .infinite a else .nan
  | .infinite a, .finite .. => .infinite a
  | .finite .., .infinite b => .infinite b
  | .finite a m _, .finite b n _ =>
    let sum := signed a m + signed b n
    if sum = 0 then zero (a && b) else round (sum < 0) sum.natAbs 1

def sub (x y : Binary64) : Binary64 :=
  add x y.neg

def mul : Binary64 → Binary64 → Binary64
  | .nan, _ | _, .nan => .nan
  | .infinite a, .infinite b => .infinite (a != b)
  | .infinite a, .finite b n _ => if n = 0 then .nan else .infinite (a != b)
  | .finite a m _, .infinite b => if m = 0 then .nan else .infinite (a != b)
  | .finite a m _, .finite b n _ => round (a != b) (m * n) one

/-- Division by zero gives an infinity, or not-a-number for zero by zero. -/
def div : Binary64 → Binary64 → Binary64
  | .nan, _ | _, .nan => .nan
  | .infinite _, .infinite _ => .nan
  | .infinite a, .finite b .. => .infinite (a != b)
  | .finite a .., .infinite b => zero (a != b)
  | .finite a m _, .finite b n _ =>
    if n = 0 then if m = 0 then .nan else .infinite (a != b) else round (a != b) (m * one) n

theorem gap_le_gap {m n : Nat} (h : m ≤ n) : gap m ∣ gap n := by
  refine Nat.pow_dvd_pow 2 (Nat.sub_le_sub_right ?_ 52)
  by_cases hm : m = 0
  · simp [hm]
  · exact (Nat.le_log2 (by omega)).2 (Nat.le_trans (Nat.log2_self_le hm) h)

theorem Representable.mod {m n : Nat} (hm : Representable m) (hn : Representable n) (h : n ≠ 0) :
    Representable (m % n) := by
  have hle : m % n ≤ m := Nat.mod_le ..
  have hlt : m % n < n := Nat.mod_lt _ (Nat.pos_of_ne_zero h)
  refine ⟨Nat.lt_of_le_of_lt hle hm.1, ?_⟩
  have key : ∀ d, gap (m % n) ∣ d → d ∣ m → d ∣ n → gap (m % n) ∣ m % n := fun d h h' h'' =>
    Nat.dvd_trans h ((Nat.dvd_mod_iff h'').2 h')
  rcases Nat.le_total m n with hmn | hmn
  · exact key (gap m) (gap_le_gap hle) hm.2 (Nat.dvd_trans (gap_le_gap hmn) hn.2)
  · exact key (gap n) (gap_le_gap (Nat.le_of_lt hlt)) (Nat.dvd_trans (gap_le_gap hmn) hm.2) hn.2

/-- The remainder of division toward zero, with the sign of the dividend. There is none of an
infinity or by zero. -/
def rem : Binary64 → Binary64 → Binary64
  | .finite a m hm, .finite _ n hn =>
    if h : n = 0 then .nan else .finite a (m % n) (hm.mod hn h)
  | .finite a m hm, .infinite _ => .finite a m hm
  | _, _ => .nan

end Calculator.Binary64
