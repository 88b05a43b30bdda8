import DigitCalc.Expr

/-! Comparison of expressions. A node is made once, after its children, and keeps a digest that was mixed then. A
comparison works on pairs of nodes that have yet to agree. A pair of one node with itself needs no look; nodes with
different digests, kinds or values end the comparison; any other pair gives way to the pairs of its children. -/
namespace DigitCalc

/-- Nodes as they are kept, each with the expression that it stands for. Several nodes may stand for equal expressions,
and one node may be the child of several. -/
structure Store (Node Digest : Type) (mix : Kind → Option (Fin 10) → List Digest → Digest) where
  tree : Node → Expr
  children : Node → List Node
  digest : Node → Digest
  children_tree : ∀ node, (children node).map tree = (tree node).children
  digest_mixed : ∀ node, digest node = mix (tree node).kind (tree node).digit? ((children node).map digest)

namespace Store

variable {Node Digest : Type} {mix : Kind → Option (Fin 10) → List Digest → Digest} (store : Store Node Digest mix)

/-- The pairs of the children, the last one first. Children that have no partner are passed over. -/
def below (a b : Node) : List (Node × Node) :=
  ((store.children a).zip (store.children b)).reverse

def nodes (pending : List (Node × Node)) : Nat :=
  Expr.sizes (pending.map fun pair => store.tree pair.1)

theorem nodes_cons (pair : Node × Node) (pending : List (Node × Node)) :
    store.nodes (pair :: pending) = (store.tree pair.1).size + store.nodes pending :=
  rfl

theorem nodes_append (first later : List (Node × Node)) :
    store.nodes (first ++ later) = store.nodes first + store.nodes later := by
  rw [nodes, List.map_append, Expr.sizes_append, nodes, nodes]

theorem nodes_zip (left right : List Node) : store.nodes (left.zip right) ≤ Expr.sizes (left.map store.tree) := by
  induction left generalizing right with
  | nil => exact Nat.le_refl 0
  | cons a left ih =>
      cases right with
      | nil => exact Nat.zero_le _
      | cons b right => exact Nat.add_le_add_left (ih right) _

theorem nodes_below (a b : Node) : store.nodes (store.below a b) < (store.tree a).size := by
  have fewer := store.nodes_zip (store.children a) (store.children b)
  rw [store.children_tree] at fewer
  rw [below, nodes, List.map_reverse, Expr.sizes_reverse]
  exact Nat.lt_of_le_of_lt fewer (store.tree a).children_smaller

variable [DecidableEq Node] [DecidableEq Digest]

def differ (a b : Node) : Bool :=
  store.digest a ≠ store.digest b || (store.tree a).kind ≠ (store.tree b).kind ||
    (store.tree a).digit? ≠ (store.tree b).digit?

def agree : List (Node × Node) → Bool
  | [] => true
  | (a, b) :: pending =>
      if a = b then agree pending
      else if store.differ a b then false
      else agree (store.below a b ++ pending)
termination_by pending => store.nodes pending
decreasing_by
  · rw [nodes_cons]
    exact Nat.lt_add_of_pos_left (Nat.zero_lt_of_lt (store.tree a).children_smaller)
  · rw [nodes_append, nodes_cons]
    exact Nat.add_lt_add_right (store.nodes_below a b) _

def same (a b : Node) : Bool :=
  store.agree [(a, b)]

end Store

namespace Expr

theorem digestWith_eq {Digest : Type} (mix : Kind → Option (Fin 10) → List Digest → Digest) (tree : Expr) :
    tree.digestWith mix = mix tree.kind tree.digit? (tree.children.map (digestWith mix)) := by
  cases tree <;> rfl

/-- Expressions taken for nodes: an expression is one node, wherever it stands. -/
def asNodes {Digest : Type} (mix : Kind → Option (Fin 10) → List Digest → Digest) : Store Expr Digest mix where
  tree := id
  children := children
  digest := digestWith mix
  children_tree tree := tree.children.map_id
  digest_mixed tree := tree.digestWith_eq mix

def same (a b : Expr) : Bool :=
  (asNodes mixHashes).same a b

end Expr

end DigitCalc
