import Calculator.Binary64.Word

/-!
# Trigonometry

Sine, cosine and tangent of an angle in radians, as the machine's mathematical library rounds them.
An infinite angle has none.
-/

namespace Calculator.Binary64

private def viaMachine (f : Float → Float) : Binary64 → Binary64
  | .nan | .infinite _ => .nan
  | x => ofWord (f (Float.ofBits (UInt64.ofNat x.toWord))).toBits.toNat

def sin : Binary64 → Binary64 :=
  viaMachine Float.sin

def cos : Binary64 → Binary64 :=
  viaMachine Float.cos

def tan : Binary64 → Binary64 :=
  viaMachine Float.tan

end Calculator.Binary64
