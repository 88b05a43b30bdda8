import DigitCalc.Token.Calls
import DigitCalc.Expr.Build
import DigitCalc.Main
import DigitCalc.Proofs.Decimals
import DigitCalc.Proofs.CallBudget
import DigitCalc.Proofs.Exactness
import DigitCalc.Proofs.Evaluation
import DigitCalc.Proofs.Lexing
import DigitCalc.Proofs.Respelling
import DigitCalc.Proofs.Classification
import DigitCalc.Proofs.Lookahead
import DigitCalc.Proofs.OpenGroups
import DigitCalc.Proofs.ViablePrefix
import DigitCalc.Proofs.LeastParentheses
import DigitCalc.Proofs.HigherLimits
import DigitCalc.Proofs.Outlines
import DigitCalc.Proofs.Records
import DigitCalc.Proofs.Positions
import DigitCalc.Proofs.Traversal
import DigitCalc.Proofs.Lines
import DigitCalc.Proofs.Caret
import DigitCalc.Proofs.Pictures
import DigitCalc.Proofs.Reports
import DigitCalc.Proofs.Batches
import DigitCalc.Proofs.Conversation
import DigitCalc.Proofs.SourceLines
import DigitCalc.Proofs.Inline
import DigitCalc.Proofs.Relocation
import DigitCalc.Proofs.Respacing
import DigitCalc.Proofs.FrontEnds
import DigitCalc.Proofs.Composition
import DigitCalc.Proofs.Interleaving
import DigitCalc.Proofs.Counting
import DigitCalc.Proofs.ExitStatus
import DigitCalc.Proofs.Locality
import DigitCalc.Proofs.CallDepth
import DigitCalc.Proofs.DigitValues
import DigitCalc.Proofs.Magnitude
