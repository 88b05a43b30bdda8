import DigitCalc.Expr

/-! Values of expressions. The rule for each kind of node is given once. A walk keeps two stacks: the values found so
far, and the nodes still to be dealt with, each with a mark that tells whether its operands were put in front of it.
A node with operands that is met without the mark goes back with it, below its operands; any other node is applied to
the values of its operands. So a long chain is a long stack and not a deep recursion. Kinds may be left without a
rule, and then their nodes cannot be evaluated. -/
namespace DigitCalc

inductive EvalFault where
  | divisionByZero (place : Place)
  | noRule (kind : Kind) (place : Place)
  | noOperand
  deriving DecidableEq, Repr

/-- Quotients are cut off toward zero. -/
def Operator.apply (operator : Operator) (place : Place) (left right : Int) : Except EvalFault Int :=
  match operator with
  | .sum => .ok (left + right)
  | .diff => .ok (left - right)
  | .prod => .ok (left * right)
  | .div => if right = 0 then .error (.divisionByZero place) else .ok (left.tdiv right)

inductive Step where
  | digit (value : Fin 10) (place : Place)
  | negative (place : Place)
  | binary (operator : Operator) (place : Place)
  deriving DecidableEq, Repr

namespace Step

/-- Takes the operands from the top of the stack, the last one uppermost, and leaves the value in their place. -/
def apply : Step → List Int → Except EvalFault (List Int)
  | .digit value _, values => .ok ((value.val : Int) :: values)
  | .negative _, operand :: values => .ok (-operand :: values)
  | .binary operator place, right :: left :: values =>
      (operator.apply place left right).map (· :: values)
  | _, _ => .error .noOperand

def ofKind (value : Fin 10) (place : Place) : Kind → Step
  | .digit => .digit value place
  | .negative => .negative place
  | .binary operator => .binary operator place

def result (step : Step) (operands : List Int) : Except EvalFault Int :=
  match step.apply operands.reverse with
  | .ok (value :: _) => .ok value
  | .ok [] => .error .noOperand
  | .error fault => .error fault

end Step

namespace Expr

def step : Expr → Step
  | .digit value place => .digit value place
  | .negative _ place => .negative place
  | .binary operator _ _ place => .binary operator place

/-- The rule is looked up before the operands are counted. -/
def applyTo (hasRule : Kind → Bool) (expr : Expr) (values : List Int) : Except EvalFault (List Int) :=
  if hasRule expr.kind then expr.step.apply values else .error (.noRule expr.kind expr.place)

/-- How many turns a walk takes for an expression: one for a digit, two for any other node. -/
def turns : Expr → Nat
  | .digit .. => 1
  | .negative operand _ => operand.turns + 2
  | .binary _ left right _ => left.turns + right.turns + 2

end Expr

structure Pending where
  expr : Expr
  expanded : Bool
  deriving DecidableEq, Repr

def Pending.turns (pending : Pending) : Nat :=
  if pending.expanded then 1 else pending.expr.turns

/-- The newest value and the next node come first. -/
structure Walk where
  values : List Int
  pending : List Pending
  deriving DecidableEq, Repr

namespace Walk

def start (expr : Expr) : Walk :=
  ⟨[], [⟨expr, false⟩]⟩

/-- Deals with the node that was taken from the stack. -/
def turn (hasRule : Kind → Bool) (values : List Int) (next : Pending) (later : List Pending) :
    Except EvalFault Walk :=
  if next.expanded || next.expr.children.isEmpty then
    (next.expr.applyTo hasRule values).map fun values => ⟨values, later⟩
  else .ok ⟨values, next.expr.children.map (⟨·, false⟩) ++ ⟨next.expr, true⟩ :: later⟩

def turns : List Pending → Nat
  | [] => 0
  | next :: later => next.turns + turns later

theorem pending_turns_pos (pending : Pending) : 0 < pending.turns := by
  unfold Pending.turns
  split
  · exact Nat.one_pos
  · cases pending.expr <;> simp [Expr.turns]

theorem turn_fewer (hasRule : Kind → Bool) (values : List Int) (next : Pending) (later : List Pending) (walk : Walk)
    (moved : turn hasRule values next later = .ok walk) : turns walk.pending < turns (next :: later) := by
  have some_turn := pending_turns_pos next
  unfold turn at moved
  split at moved
  · cases applied : next.expr.applyTo hasRule values with
    | error fault => simp [applied, Except.map] at moved
    | ok values =>
        simp only [applied, Except.map, Except.ok.injEq] at moved
        subst walk
        simp only [turns]
        omega
  · next inner =>
      simp only [Except.ok.injEq] at moved
      subst walk
      obtain ⟨expr, expanded⟩ := next
      cases expr <;> simp_all [turns, Pending.turns, Expr.turns, Expr.children] <;> omega

def run (hasRule : Kind → Bool) (values : List Int) (pending : List Pending) : Except EvalFault (List Int) :=
  match pending with
  | [] => .ok values
  | next :: later =>
      match _moved : turn hasRule values next later with
      | .error fault => .error fault
      | .ok walk => run hasRule walk.values walk.pending
termination_by turns pending
decreasing_by exact turn_fewer hasRule values next later walk _moved

end Walk

namespace Expr

/-- The first value that was found is the lowest of the stack. -/
def evaluateWith (hasRule : Kind → Bool) (expr : Expr) : Except EvalFault Int :=
  match Walk.run hasRule (Walk.start expr).values (Walk.start expr).pending with
  | .error fault => .error fault
  | .ok values =>
      match values.getLast? with
      | none => .error .noOperand
      | some value => .ok value

def evaluate : Expr → Except EvalFault Int :=
  evaluateWith fun _ => true

end Expr

def EvalFault.message : EvalFault → String
  | .divisionByZero _ => "division by zero"
  | .noRule kind place =>
      "No evaluator for node kind '" ++ kind.name ++ "' (line " ++ toString place.line ++
        ", col " ++ toString place.column ++ ")"
  | .noOperand => "no operand"

end DigitCalc
