/-!
# Lines

Lines of a text without what ends them. A last line without an end counts unless it is empty.
-/

namespace Calculator.Text

def consLine (c : Char) : List (List Char) → List (List Char)
  | [] => [[c]]
  | line :: lines => (c :: line) :: lines

def lines : List Char → List (List Char)
  | [] => []
  | '\n' :: cs => [] :: lines cs
  | c :: cs => consLine c (lines cs)

/-- Every line end becomes a line feed: a carriage return with the line feed after it, and one that
stands alone. -/
def unifyLineEnds : List Char → List Char
  | [] => []
  | '\r' :: '\n' :: cs => '\n' :: unifyLineEnds cs
  | '\r' :: cs => '\n' :: unifyLineEnds cs
  | c :: cs => c :: unifyLineEnds cs

end Calculator.Text
