/-!
# Slices

Parts of a text between two positions. A negative position counts from the end, and a position
outside the text is moved to its nearest end.
-/

namespace Calculator.Text

/-- The place, among `length` characters, that position `i` names. -/
def place (length : Nat) (i : Int) : Nat :=
  if i < 0 then (length + i).toNat else min i.toNat length

def upTo (stop : Int) (cs : List Char) : List Char :=
  cs.take (place cs.length stop)

def onwards (start : Int) (cs : List Char) : List Char :=
  cs.drop (place cs.length start)

/-- The characters from position `start` up to position `stop`; none when they are out of order. -/
def slice (start stop : Int) (cs : List Char) : List Char :=
  (cs.take (place cs.length stop)).drop (place cs.length start)

end Calculator.Text
