import DigitCalc.Token

/-! Expressions over single digits. Every node keeps the place of the token that made it; places serve messages only,
so two spellings of one expression are the same expression. -/
namespace DigitCalc

inductive Operator where
  | sum
  | diff
  | prod
  | div
  deriving DecidableEq, Repr

inductive Kind where
  | digit
  | negative
  | binary (operator : Operator)
  deriving DecidableEq, Repr

namespace Operator

def all : List Operator := [.sum, .diff, .prod, .div]

def name : Operator → String
  | .sum => "sum"
  | .diff => "diff"
  | .prod => "prod"
  | .div => "div"

def symbol : Operator → String
  | .sum => "+"
  | .diff => "-"
  | .prod => "*"
  | .div => "/"

def precedence : Operator → Nat
  | .sum | .diff => 1
  | .prod | .div => 2

def additive? : TokenKind → Option Operator
  | .plus => some .sum
  | .minus => some .diff
  | _ => none

def multiplicative? : TokenKind → Option Operator
  | .times => some .prod
  | .division => some .div
  | _ => none

end Operator

namespace Kind

def all : List Kind := .digit :: .negative :: Operator.all.map .binary

def name : Kind → String
  | .digit => "digit"
  | .negative => "negative"
  | .binary operator => operator.name

def ofName? (name : String) : Option Kind :=
  all.find? fun kind => kind.name == name

def arity : Kind → Nat
  | .digit => 0
  | .negative => 1
  | .binary _ => 2

/-- Digits and negations bind tighter than every operator. -/
def precedence : Kind → Nat
  | .digit | .negative => 3
  | .binary operator => operator.precedence

def symbol? : Kind → Option String
  | .digit => none
  | .negative => some "-"
  | .binary operator => some operator.symbol

end Kind

inductive Expr where
  | digit (value : Fin 10) (place : Place)
  | negative (operand : Expr) (place : Place)
  | binary (operator : Operator) (left right : Expr) (place : Place)
  deriving DecidableEq, Repr

namespace Expr

def kind : Expr → Kind
  | .digit .. => .digit
  | .negative .. => .negative
  | .binary operator .. => .binary operator

def place : Expr → Place
  | .digit _ place | .negative _ place | .binary _ _ _ place => place

def digit? : Expr → Option (Fin 10)
  | .digit value _ => some value
  | _ => none

def children : Expr → List Expr
  | .digit .. => []
  | .negative operand _ => [operand]
  | .binary _ left right _ => [left, right]

def height : Expr → Nat
  | .digit .. => 1
  | .negative operand _ => operand.height + 1
  | .binary _ left right _ => max left.height right.height + 1

def size : Expr → Nat
  | .digit .. => 1
  | .negative operand _ => operand.size + 1
  | .binary _ left right _ => left.size + right.size + 1

def sizes : List Expr → Nat
  | [] => 0
  | tree :: later => tree.size + sizes later

theorem sizes_append (first later : List Expr) : sizes (first ++ later) = sizes first + sizes later := by
  induction first with
  | nil => simp [sizes]
  | cons tree first ih => simp [sizes, ih, Nat.add_assoc]

theorem sizes_reverse (trees : List Expr) : sizes trees.reverse = sizes trees := by
  induction trees with
  | nil => rfl
  | cons tree trees ih => simp [sizes, sizes_append, ih, Nat.add_comm]

theorem children_smaller (tree : Expr) : sizes tree.children < tree.size := by
  cases tree <;> simp [children, sizes, size]

/-- Agreement in everything but places. -/
def alike : Expr → Expr → Bool
  | .digit m _, .digit n _ => m == n
  | .negative a _, .negative b _ => alike a b
  | .binary p a b _, .binary q c d _ => p == q && alike a c && alike b d
  | _, _ => false

/-- A digest made from the bottom up, of the parts that `alike` compares. -/
def digestWith {Digest : Type} (mix : Kind → Option (Fin 10) → List Digest → Digest) : Expr → Digest
  | .digit value _ => mix .digit (some value) []
  | .negative operand _ => mix .negative none [operand.digestWith mix]
  | .binary operator left right _ =>
      mix (.binary operator) none [left.digestWith mix, right.digestWith mix]

def mixHashes (kind : Kind) (value : Option (Fin 10)) (parts : List UInt64) : UInt64 :=
  parts.foldl mixHash (mixHash (hash kind.name) (hash (value.map Fin.val)))

def digest : Expr → UInt64 := digestWith mixHashes

inductive Part where
  | left
  | right
  | operand
  deriving DecidableEq, Repr

def Part.description : Part → String
  | .left => "left child"
  | .right => "right child"
  | .operand => "operand"

def part? : Part → Expr → Option Expr
  | .left, .binary _ left _ _ => some left
  | .right, .binary _ _ right _ => some right
  | .operand, .negative operand _ => some operand
  | _, _ => none

def missingPart (part : Part) (expr : Expr) : String :=
  expr.kind.name ++ " node has no " ++ part.description

end Expr

end DigitCalc
