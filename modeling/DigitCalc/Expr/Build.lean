import DigitCalc.Expr.Comparison

/-! Nodes put together from parts that may not fit: a kind given by name, a value of any sort and children that need
not be expressions. The first misfit is reported, the kind before the value, the value before the number of children,
and the children last. -/
namespace DigitCalc

/-- What may be handed over where an expression or a token is wanted. -/
inductive Material where
  | expr (tree : Expr)
  | token (token : Token)
  | datum (value : Datum)
  | list
  | record
  deriving DecidableEq, Repr

namespace Material

def expr? : Material → Option Expr
  | .expr tree => some tree
  | _ => none

def typeName : Material → String
  | .expr _ => "ASTNode"
  | .token _ => "Token"
  | .datum value => value.typeName
  | .list => "list"
  | .record => "dict"

def same : Material → Material → Bool
  | .expr a, .expr b => a.same b
  | .token a, .token b => a.same b
  | .datum a, .datum b => a.same b
  | .list, .list | .record, .record => true
  | _, _ => false

def notAnExpression (material : Material) : String :=
  "Expected an ASTNode, got " ++ material.typeName

def lacking (material : Material) (name : String) : String :=
  "'" ++ material.typeName ++ "' object has no attribute '" ++ name ++ "'"

end Material

inductive BuildFault where
  | unknownKind (name : String)
  | digitWithChildren
  | notADigit (value : Datum)
  | needlessValue (kind : Kind)
  | childCount (kind : Kind) (count : Nat)
  | foreignChild
  deriving DecidableEq, Repr

def BuildFault.message : BuildFault → String
  | .unknownKind name => "Unknown AST node kind: " ++ Text.Quoted.quote name
  | .digitWithChildren => "digit nodes cannot have children"
  | .notADigit value => Datum.digitRefusal value
  | .needlessValue kind => kind.name ++ " nodes do not carry a value"
  | .childCount kind count =>
      kind.name ++ " nodes take " ++ toString kind.arity ++ " children, got " ++ toString count
  | .foreignChild => "All children must be ASTNode instances."

namespace Expr

def buildDigit (value : Datum) (children : List Material) (place : Place) : Except BuildFault Expr :=
  if children ≠ [] then .error .digitWithChildren else
    match value.digit? with
    | none => .error (.notADigit value)
    | some value => .ok (.digit value place)

def buildInner (kind : Kind) (value : Datum) (children : List Material) (place : Place) :
    Except BuildFault Expr :=
  if value ≠ .absent then .error (.needlessValue kind)
  else if children.length ≠ kind.arity then .error (.childCount kind children.length)
  else
    match kind, children.mapM Material.expr? with
    | .negative, some [operand] => .ok (.negative operand place)
    | .binary operator, some [left, right] => .ok (.binary operator left right place)
    | _, _ => .error .foreignChild

def build (kind : String) (value : Datum) (children : List Material) (place : Place) :
    Except BuildFault Expr :=
  match Kind.ofName? kind with
  | none => .error (.unknownKind kind)
  | some .digit => buildDigit value children place
  | some kind => buildInner kind value children place

def assignmentRefusal (field : String) : String :=
  "ASTNode is immutable (tried to set " ++ Text.Quoted.quote field ++ ")"

end Expr

end DigitCalc
