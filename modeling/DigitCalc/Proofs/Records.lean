import DigitCalc.Expr.Build
import DigitCalc.Expr.Filing
import DigitCalc.Proofs.Comparison
import DigitCalc.Proofs.Reading

/-! The record of an expression has all of the expression in it. At every node it has the fields of that node and the
records of its children in their order, so the nodes can be built again from it, the children before their parent; none
of them is refused, and the expression comes out with all its places. -/
namespace DigitCalc

namespace Record

def datum : Option Nat → Datum
  | none => .absent
  | some n => .int n

mutual

/-- The node that a record tells of, built after its children. -/
def rebuild : Record → Except BuildFault Expr
  | .node kind value line column children => do
      let parts ← rebuildAll children
      Expr.build kind (datum value) (parts.map .expr) ⟨line, column⟩

def rebuildAll : List Record → Except BuildFault (List Expr)
  | [] => .ok []
  | record :: rest => do
      let first ← rebuild record
      return first :: (← rebuildAll rest)

end

end Record

theorem Kind.ofName?_name (kind : Kind) : ofName? kind.name = some kind := by
  cases kind with
  | digit => rfl
  | negative => rfl
  | binary operator => cases operator <;> rfl

namespace Expr

theorem build_parts (tree : Expr) :
    build tree.kind.name (Record.datum (tree.digit?.map Fin.val)) (tree.children.map .expr) tree.place = .ok tree := by
  rw [build, Kind.ofName?_name]
  cases tree with
  | digit value place =>
      change buildDigit (.int value) [] place = _
      simp [buildDigit, Grammar.digit?_int]
  | negative operand place => rfl
  | binary operator left right place => rfl

theorem nested_eq (tree : Expr) : tree.nested =
    .node tree.kind.name (tree.digit?.map Fin.val) tree.place.line tree.place.column (tree.children.map nested) := by
  cases tree <;> rfl

end Expr

namespace Record

theorem rebuildAll_nested {trees : List Expr} (each : ∀ tree ∈ trees, tree.nested.rebuild = .ok tree) :
    rebuildAll (trees.map Expr.nested) = .ok trees := by
  induction trees with
  | nil => rfl
  | cons tree trees ih =>
      have later := ih fun other member => each other (List.mem_cons_of_mem tree member)
      rw [List.map_cons, rebuildAll, each tree List.mem_cons_self, later]
      rfl

theorem rebuild_nested (tree : Expr) : tree.nested.rebuild = .ok tree := by
  induction tree using Expr.children_induction with
  | step tree ih =>
      rw [tree.nested_eq, rebuild, rebuildAll_nested ih]
      exact tree.build_parts

end Record

namespace Expr

/-- Filing ends with the record that has, at every node, its fields and the records of its children from left to right.
An expression is built again from its record without a fault, and so two expressions with one record are one. -/
theorem record_exact (tree : Expr) :
    tree.filed? = some tree.record ∧
    tree.record = .node tree.kind.name (tree.digit?.map Fin.val) tree.place.line tree.place.column
      (tree.children.map record) ∧
    tree.record.rebuild = .ok tree ∧
    ∀ other : Expr, other.record = tree.record → other = tree := by
  have nested : record = Expr.nested := funext record_nested
  rw [nested]
  refine ⟨tree.filed?_eq, tree.nested_eq, Record.rebuild_nested tree, ?_⟩
  intro other same
  have again := congrArg Record.rebuild same
  rw [Record.rebuild_nested, Record.rebuild_nested] at again
  exact Except.ok.inj again

end Expr

end DigitCalc
