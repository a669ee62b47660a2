import Calculator.Main
import Calculator.Proofs.Console.History
import Calculator.Proofs.Expr.FirstError
import Calculator.Proofs.Expr.Respaced
import Calculator.Proofs.Program.File
import Calculator.Proofs.Trap.Calculation
import Calculator.Proofs.Worksheet.Ledger
import Calculator.Proofs.Expr.Composed
import Calculator.Proofs.Worksheet.Attribution
import Calculator.Proofs.Program.Arguments
import Calculator.Proofs.Program.Agreement
import Calculator.Proofs.Console.Endurance
import Calculator.Proofs.Token.Coverage
import Calculator.Proofs.Report.History
import Calculator.Proofs.Worksheet.Comments
import Calculator.Proofs.Binary64.Nearest
import Calculator.Proofs.Value.ReadBack
import Calculator.Proofs.Token.Number
import Calculator.Proofs.Expr.ErrorSpan
import Calculator.Proofs.Evaluation.FirstFailure
import Calculator.Proofs.Numeral.PlaceValue
import Calculator.Proofs.Builtin.Conversion
import Calculator.Proofs.Builtin.RoundTrip
import Calculator.Proofs.Value.Nearest
import Calculator.Proofs.Base64.RoundTrip
import Calculator.Proofs.Base64.Strictness
import Calculator.Proofs.Nesting.Reading
import Calculator.Proofs.Nesting.Evaluation
import Calculator.Proofs.Binary64.Remainder
import Calculator.Proofs.Report.Location
import Calculator.Proofs.Text.Replacement
import Calculator.Proofs.Expr.LetterCase
import Calculator.Proofs.Expr.Outline
