import DigitCalc.Calculation
import DigitCalc.Expr.Filing
import DigitCalc.Expr.Spelling
import DigitCalc.Printout
import DigitCalc.Text.Numeral

/-! One expression, calculated with its intermediate forms on display. A form is printed as soon as its stage has
succeeded, so a later failure leaves it standing. -/
namespace DigitCalc

structure Display where
  tokens : Bool
  tree : Bool
  json : Bool
  pretty : Bool
  deriving DecidableEq, Repr

namespace Display

def plain : Display := ⟨false, false, false, false⟩

end Display

namespace Report
variable (stack : Stack)

def sayTokens (display : Display) (tokens : List Token) : Run Unit :=
  if display.tokens then
    match Token.writeList? tokens with
    | some text => .say ("[tokens] >>> " ++ text)
    | none => .lift (.error .longNumber)
  else .done ()

def sayJson (display : Display) (expr : Expr) : Run Unit :=
  if display.json then
    match expr.json? stack display.pretty with
    | some text => .say text
    | none => .lift (.error .tallTree)
  else .done ()

/-- The value of a text, with the forms that the display asks for. -/
def stages (display : Display) (limit : Int) (source : String) : Run Int := do
  let tokens ← Run.lift (tokensOf source)
  sayTokens display tokens
  let expr ← Run.lift (exprOf stack tokens limit)
  Run.sayIf display.tree ("[ast] >>> " ++ expr.source)
  sayJson stack display expr
  Run.lift (valueOf expr)

def numeral (value : Int) : Run String :=
  match Text.Numeral.write? value with
  | some text => .done text
  | none => .lift (.error .longNumber)

def success (display : Display) (source : String) (value : Int) : Run Bool := do
  let text ← numeral value
  Run.say (if display.pretty then source ++ " = " ++ text else text)
  return true

def drawing (diagnostic : Diagnostic) (source : String) : Run String :=
  match diagnostic.draw? source with
  | some text => .done text
  | none => .lift (.error .undrawable)

def failed (source : String) (failure : Failure) : Run Bool :=
  match failure.diagnostic? with
  | some diagnostic => do
      Run.complain ("[error] >>> " ++ (← drawing diagnostic source))
      return false
  | none =>
      if failure.isStackLimit then do
        Run.complain "[error] >>> AST too deep to render as JSON"
        return false
      else .lift (.error failure)

def run (display : Display) (limit : Int) (source : String) : Run Bool := do
  match ← (stages stack display limit source).attempt with
  | .ok value => success display source value
  | .error failure => failed source failure

end Report

end DigitCalc
