import DigitCalc.Diagnostic
import DigitCalc.Expr.Evaluation
import DigitCalc.Expr.Grammar
import DigitCalc.Files
import DigitCalc.Token.Reader

/-! Everything that can stop a calculation or a command. Faults of the expression itself have a diagnostic and are
reported; the others are limits of the program or of its surroundings and end what was asked for. -/
namespace DigitCalc

inductive Failure where
  | lexical (fault : Unrecognized)
  | parsing (fault : ParseFault)
  | evaluation (fault : EvalFault)
  | tallTree
  | longNumber
  | notAnExpressionFile
  | unnamable
  | file (fault : FileFault) (path : String)
  | undecodable (fault : Text.Utf8.Fault)
  | undrawable
  | noLimit
  deriving DecidableEq, Repr

namespace Failure

/-- Zero stands for an unknown line or column. -/
def known (n : Int) : Option Int :=
  if n = 0 then none else some n

def diagnostic? : Failure → Option Diagnostic
  | .lexical fault =>
      some (.unrecognized (String.singleton fault.character) (some fault.place.column) (some fault.place.line))
  | .parsing (.grammar fault) => some ⟨.parser, fault.message, some fault.position, none⟩
  | .evaluation (.divisionByZero place) =>
      some ⟨.evaluation, (EvalFault.divisionByZero place).message, known place.column, known place.line⟩
  | _ => none

def isStackLimit : Failure → Bool
  | .parsing .outOfCalls | .tallTree => true
  | _ => false

def message : Failure → String
  | .lexical fault => (Diagnostic.unrecognized (String.singleton fault.character) none none).message
  | .parsing fault => fault.message
  | .evaluation fault => fault.message
  | .tallTree => "maximum recursion depth exceeded"
  | .longNumber => Text.Numeral.refusal
  | .notAnExpressionFile => "Only .arith files are supported."
  | .unnamable => "embedded null byte"
  | .file fault path => fault.message path
  | .undecodable fault => fault.message
  | .undrawable => Index.refusal
  | .noLimit => "'<' not supported between instances of 'list' and 'int'"

end Failure

end DigitCalc
