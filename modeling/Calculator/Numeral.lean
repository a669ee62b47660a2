/-!
# Numerals

Integers written in a base from 2 to 36. The digits above nine are letters, of either case when
read and capitals when written. Nothing but an optional minus sign and digits is part of a numeral,
and its length is not limited.
-/

namespace Calculator

structure Base where
  value : Nat
  two_le : 2 ≤ value
  le_36 : value ≤ 36
deriving DecidableEq

namespace Base

def ofInt? (n : Int) : Option Base :=
  if h : 2 ≤ n.toNat ∧ n.toNat ≤ 36 then some ⟨n.toNat, h.1, h.2⟩ else none

def ten : Base :=
  ⟨10, by decide, by decide⟩

end Base

namespace Numeral

def symbol (digit : Nat) : Char :=
  if digit < 10 then Char.ofNat (0x30 + digit) else Char.ofNat (0x41 + (digit - 10))

def digit? (c : Char) : Option Nat :=
  if '0' ≤ c ∧ c ≤ '9' then some (c.toNat - 0x30)
  else if 'A' ≤ c ∧ c ≤ 'Z' then some (c.toNat - 0x41 + 10)
  else if 'a' ≤ c ∧ c ≤ 'z' then some (c.toNat - 0x61 + 10)
  else none

def digitOf? (base : Base) (c : Char) : Option Nat :=
  (digit? c).filter (· < base.value)

/-- The digits of `n`, the most significant first and without leading zeros. -/
def digits (base : Base) (n : Nat) : List Char :=
  if n < base.value then [symbol n]
  else digits base (n / base.value) ++ [symbol (n % base.value)]
termination_by n
decreasing_by
  have := base.two_le
  exact Nat.div_lt_self (by omega) (by omega)

def write (base : Base) (n : Int) : List Char :=
  if n < 0 then '-' :: digits base n.natAbs else digits base n.natAbs

def extend? (base : Base) (n : Nat) : List Char → Option Nat
  | [] => some n
  | c :: cs => (digitOf? base c).bind fun d => extend? base (n * base.value + d) cs

def readNat? (base : Base) (cs : List Char) : Option Nat :=
  if cs.isEmpty then none else extend? base 0 cs

def read? (base : Base) : List Char → Option Int
  | '-' :: body => (readNat? base body).map fun n => -n
  | body => (readNat? base body).map fun n => n

end Numeral

end Calculator
