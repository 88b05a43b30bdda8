import DigitCalc.Expr

/-! Expressions written out: as the text that an author would write, and as an outline that names every node. Text has
parentheses only where leaving them out would give another expression. Either way of writing lays one node out as
pieces, some of them expressions again; a writer takes the first piece that is left, adds it if it is text, and puts
its own pieces in its place if it is an expression. So a long chain is a long list of pieces and not a deep
recursion. -/
namespace DigitCalc

inductive Piece where
  | text (content : String)
  | expr (tree : Expr)
  deriving DecidableEq, Repr

namespace Piece

def nodes : List Piece → Nat
  | [] => 0
  | .text _ :: later => nodes later
  | .expr tree :: later => tree.size + nodes later

theorem nodes_append (first later : List Piece) : nodes (first ++ later) = nodes first + nodes later := by
  induction first with
  | nil => simp [nodes]
  | cons piece rest ih =>
      cases piece with
      | text content => simpa [nodes] using ih
      | expr tree => simp [nodes, ih, Nat.add_assoc]

end Piece

/-- The pieces of every node, whose expressions are smaller together than the node. -/
structure Layout where
  pieces : Expr → List Piece
  smaller : ∀ expr, Piece.nodes (pieces expr) < expr.size

namespace Layout

def writeAll (layout : Layout) (written : String) : List Piece → String
  | [] => written
  | .text content :: later => layout.writeAll (written ++ content) later
  | .expr tree :: later => layout.writeAll written (layout.pieces tree ++ later)
termination_by pieces => (Piece.nodes pieces, pieces.length)
decreasing_by
  · exact Prod.Lex.right _ (Nat.lt_succ_self _)
  · apply Prod.Lex.left
    rw [Piece.nodes_append, Piece.nodes]
    exact Nat.add_lt_add_right (layout.smaller tree) _

def write (layout : Layout) (expr : Expr) : String :=
  layout.writeAll "" [.expr expr]

end Layout

namespace Expr

def grouped (needed : Bool) (operand : Expr) : List Piece :=
  if needed then [.text "(", .expr operand, .text ")"] else [.expr operand]

theorem grouped_nodes (needed : Bool) (operand : Expr) : Piece.nodes (grouped needed operand) = operand.size := by
  cases needed <;> simp [grouped, Piece.nodes]

/-- A left operand may bind as tightly as its operator, because chains lean to the left. -/
def needsGroupLeft (operator : Operator) (operand : Expr) : Bool :=
  operand.kind.precedence < operator.precedence

def needsGroupRight (operator : Operator) (operand : Expr) : Bool :=
  operand.kind.precedence ≤ operator.precedence

/-- Only a digit follows a minus sign without parentheses. -/
def needsGroupNegated (operand : Expr) : Bool :=
  operand.kind ≠ .digit

def sourceLayout : Layout where
  pieces
    | .digit value _ => [.text (String.singleton (Nat.digitChar value))]
    | .negative operand _ => .text "-" :: grouped (needsGroupNegated operand) operand
    | .binary operator left right _ =>
        grouped (needsGroupLeft operator left) left ++
          .text (" " ++ operator.symbol ++ " ") :: grouped (needsGroupRight operator right) right
  smaller expr := by
    cases expr <;> simp [Piece.nodes, Piece.nodes_append, grouped_nodes, size]

def source : Expr → String :=
  sourceLayout.write

def outlineLayout : Layout where
  pieces
    | .digit value _ => [.text ("ASTNode(digit, value=" ++ String.singleton (Nat.digitChar value) ++ ")")]
    | .negative operand _ => [.text "ASTNode(negative, children=[", .expr operand, .text "])"]
    | .binary operator left right _ =>
        [.text ("ASTNode(" ++ operator.name ++ ", children=["), .expr left, .text ", ", .expr right, .text "])"]
  smaller expr := by
    cases expr <;> simp [Piece.nodes, size, Nat.add_assoc]

def outline : Expr → String :=
  outlineLayout.write

end Expr

end DigitCalc
