/-!
# Literal replacement

Every occurrence of one text inside another is replaced, from left to right and without overlap. No
character stands for anything but itself.
-/

namespace Calculator.Text

/-- Replaces `o :: os`. An occurrence is looked for only behind the previous one. -/
def substitute (o : Char) (os new : List Char) : List Char → List Char
  | [] => []
  | c :: cs =>
    if (o :: os).isPrefixOf (c :: cs) then new ++ substitute o os new (cs.drop os.length)
    else c :: substitute o os new cs
termination_by text => text.length
decreasing_by
  · simp only [List.length_drop, List.length_cons]
    omega
  · exact Nat.lt_succ_self _

/-- The empty text occurs before every character and at the end. -/
def replace (text old new : List Char) : List Char :=
  match old with
  | [] => text.flatMap (fun c => new ++ [c]) ++ new
  | o :: os => substitute o os new text

end Calculator.Text
