import DigitCalc.Failure

/-! From text to value: tokens, an expression, a number. The first stage that fails decides how the calculation fails.
-/
namespace DigitCalc
variable (stack : Stack)

def tokensOf (source : String) : Except Failure (List Token) :=
  (Token.ofText source).mapError .lexical

def exprOf (tokens : List Token) (limit : Int) : Except Failure Expr :=
  (Expr.ofTokens stack limit tokens).mapError .parsing

def valueOf (expr : Expr) : Except Failure Int :=
  expr.evaluate.mapError .evaluation

def calculate (source : String) (limit : Int) : Except Failure Int := do
  valueOf (← exprOf stack (← tokensOf source) limit)

structure Calculated where
  source : String
  outcome : Except Failure Int

/-- Every text is calculated on its own; only a failure that is not the fault of a text ends the list. -/
def calculateEach (limit : Int) : List String → Except Failure (List Calculated)
  | [] => .ok []
  | source :: rest =>
      match calculate stack source limit with
      | .ok value => (calculateEach limit rest).map (⟨source, .ok value⟩ :: ·)
      | .error failure =>
          if failure.diagnostic?.isSome then
            (calculateEach limit rest).map (⟨source, .error failure⟩ :: ·)
          else .error failure

end DigitCalc
