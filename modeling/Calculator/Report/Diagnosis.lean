import Calculator.Problem
import Calculator.Report.Styled
import Calculator.Text.Slice

/-!
# Diagnoses

The source of a problem with the part at fault highlighted, and a second line that underlines it.
-/

namespace Calculator.Problem

def isDiagnosed (problem : Problem) : Bool :=
  !problem.internal && !problem.source.isEmpty && problem.diagnosed

/-- The underlined part is never empty. -/
def shownStop (problem : Problem) : Int :=
  max problem.stop (problem.start + 1)

def underline (problem : Problem) : String :=
  String.ofList ('^' :: List.replicate (problem.shownStop - problem.start - 1).toNat '~')

def diagnosis (style : Style) (problem : Problem) : List Span :=
  let source := problem.source.toList
  let stop := problem.shownStop
  let margin := String.ofList (List.replicate problem.start.toNat ' ')
  [.plain ("  " ++ String.ofList (Text.upTo problem.start source)),
    ⟨style, String.ofList (Text.slice problem.start stop source)⟩,
    .plain (String.ofList (Text.onwards stop source) ++ "\n  " ++ margin),
    ⟨style, problem.underline⟩]

end Calculator.Problem
