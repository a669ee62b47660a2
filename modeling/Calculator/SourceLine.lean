import Calculator.Text.Blank
import Calculator.Text.Lines

/-!
# Source lines

A file holds one expression a line. Two semicolons begin a comment, wherever they stand, and blanks
around the expression do not count.
-/

namespace Calculator.SourceLine

def beforeComment : List Char → List Char
  | [] => []
  | ';' :: ';' :: _ => []
  | c :: cs => c :: beforeComment cs

/-- What a line holds besides a comment and blanks around it. -/
def clean (line : List Char) : List Char :=
  Text.trim (beforeComment line)

/-- The lines of a file that are not empty, each with its number among all lines from 1. -/
def ofFile (content : String) : List (String × Int) :=
  (numbered 1 (Text.lines (Text.unifyLineEnds content.toList))).filter fun (line, _) =>
    !line.isEmpty
where
  numbered (number : Int) : List (List Char) → List (String × Int)
    | [] => []
    | line :: lines => (String.ofList (clean line), number) :: numbered (number + 1) lines

end Calculator.SourceLine
