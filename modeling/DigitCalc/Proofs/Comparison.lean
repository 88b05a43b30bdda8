import DigitCalc.Expr.Comparison

/-! What a comparison finds. Two nodes are the same just where their expressions agree place by place in kinds and
values, whatever digests are mixed by and however nodes are shared. Digests that differ tell of a difference further
down; digests that collide are never relied on, since kinds and values are compared beside them. Pairs are formed of
the children without counting them, and none is lost because nodes of one kind have equally many. -/
namespace DigitCalc

namespace Expr

def mark (tree : Expr) : Kind × Option (Fin 10) :=
  (tree.kind, tree.digit?)

/-- What stands at the end of a path, which names a child by its index at each step. -/
def at? (tree : Expr) : List Nat → Option Expr
  | [] => some tree
  | index :: path =>
      match tree.children[index]? with
      | none => none
      | some child => child.at? path

theorem children_induction {property : Expr → Prop}
    (step : ∀ tree, (∀ child ∈ tree.children, property child) → property tree) (tree : Expr) : property tree := by
  induction tree with
  | digit value place => exact step _ (by simp [children])
  | negative operand place ih => exact step _ (by simpa [children] using ih)
  | binary operator left right place ih_left ih_right => exact step _ (by simpa [children] using ⟨ih_left, ih_right⟩)

theorem children_length {a b : Expr} (kinds : a.kind = b.kind) : a.children.length = b.children.length := by
  cases a <;> cases b <;> simp_all [kind, children]

theorem alike_refl (tree : Expr) : tree.alike tree = true := by
  induction tree with
  | digit value place => exact beq_self_eq_true value
  | negative operand place ih => exact ih
  | binary operator left right place ih_left ih_right => simp [alike, ih_left, ih_right]

theorem alike_iff (a b : Expr) : a.alike b = true ↔
    a.mark = b.mark ∧ ∀ pair ∈ a.children.zip b.children, pair.1.alike pair.2 = true := by
  cases a <;> cases b <;> simp [alike, mark, kind, digit?, children, and_assoc]

/-- Expressions agree if at the end of every path they have the same, or both have nothing there. -/
theorem alike_iff_marks (a b : Expr) :
    a.alike b = true ↔ ∀ path, (a.at? path).map mark = (b.at? path).map mark := by
  induction a using children_induction generalizing b with
  | step a ih =>
      rw [alike_iff]
      constructor
      · rintro ⟨roots, pairs⟩ path
        cases path with
        | nil => simp [at?, roots]
        | cons index path =>
            have counts := children_length (congrArg Prod.fst roots)
            rcases Nat.lt_or_ge index a.children.length with inside | outside
            · have there : index < b.children.length := by omega
              have within : index < (a.children.zip b.children).length := by
                rw [List.length_zip]
                omega
              have member := List.getElem_mem within
              rw [List.getElem_zip] at member
              have agree := (ih _ (List.getElem_mem inside) b.children[index]).mp (pairs _ member) path
              simpa [at?, inside, there] using agree
            · have beyond : b.children.length ≤ index := by omega
              simp [at?, outside, beyond]
      · intro everywhere
        have roots : a.mark = b.mark := Option.some.inj (everywhere [])
        refine ⟨roots, ?_⟩
        rintro ⟨child, other⟩ member
        obtain ⟨index, inside, found⟩ := List.getElem_of_mem member
        rw [List.getElem_zip] at found
        cases found
        rw [List.length_zip] at inside
        refine (ih _ (List.getElem_mem _) _).mpr ?_
        intro path
        have below := everywhere (index :: path)
        have here : index < a.children.length := by omega
        have there : index < b.children.length := by omega
        simpa [at?, here, there] using below

theorem alike_digest {Digest : Type} (mix : Kind → Option (Fin 10) → List Digest → Digest) (a b : Expr)
    (alike : a.alike b = true) : a.digestWith mix = b.digestWith mix := by
  induction a generalizing b with
  | digit value place =>
      cases b with
      | digit other there =>
          rw [eq_of_beq alike, digestWith, digestWith]
      | _ => cases alike
  | negative operand place ih =>
      cases b with
      | negative other there => rw [digestWith, digestWith, ih other alike]
      | _ => cases alike
  | binary operator left right place ih_left ih_right =>
      cases b with
      | binary other first second there =>
          simp only [Expr.alike, Bool.and_eq_true, beq_iff_eq] at alike
          obtain ⟨⟨rfl, lefts⟩, rights⟩ := alike
          rw [digestWith, digestWith, ih_left first lefts, ih_right second rights]
      | _ => cases alike

end Expr

namespace Store

variable {Node Digest : Type} {mix : Kind → Option (Fin 10) → List Digest → Digest} (store : Store Node Digest mix)

theorem digest_tree (node : Node) : store.digest node = (store.tree node).digestWith mix := by
  -- Nodes have no order of their own; the induction is on the expression that a node stands for.
  induction held : store.tree node using Expr.children_induction generalizing node with
  | step tree ih =>
      have parts : (store.children node).map store.digest = tree.children.map (Expr.digestWith mix) := by
        rw [← held, ← store.children_tree, List.map_map]
        refine List.map_congr_left fun child member => ih _ ?_ child rfl
        rw [← held, ← store.children_tree]
        exact List.mem_map_of_mem member
      rw [store.digest_mixed, parts, held, tree.digestWith_eq]

/-- The two nodes of a pair stand for expressions that agree. -/
def Agrees (pair : Node × Node) : Prop :=
  (store.tree pair.1).alike (store.tree pair.2) = true

theorem below_agrees (a b : Node) : (∀ pair ∈ store.below a b, store.Agrees pair) ↔
    ∀ pair ∈ (store.tree a).children.zip (store.tree b).children, pair.1.alike pair.2 = true := by
  rw [← store.children_tree, ← store.children_tree, List.zip_map, List.forall_mem_map]
  simp only [below, List.mem_reverse]
  rfl

variable [DecidableEq Digest]

theorem differ_eq_false_iff (a b : Node) : store.differ a b = false ↔
    store.digest a = store.digest b ∧ (store.tree a).mark = (store.tree b).mark := by
  simp [differ, Expr.mark, and_assoc]

/-- One turn for nodes that are not one: they agree if they do not differ and the pairs below them agree. -/
theorem agrees_turn (a b : Node) :
    store.Agrees (a, b) ↔ store.differ a b = false ∧ ∀ pair ∈ store.below a b, store.Agrees pair := by
  rw [differ_eq_false_iff, below_agrees, and_assoc, ← Expr.alike_iff]
  constructor
  · intro agrees
    refine ⟨?_, agrees⟩
    rw [digest_tree, digest_tree]
    exact Expr.alike_digest mix _ _ agrees
  · exact And.right

variable [DecidableEq Node]

theorem agree_iff (pending : List (Node × Node)) :
    store.agree pending = true ↔ ∀ pair ∈ pending, store.Agrees pair := by
  fun_induction agree store pending with
  | case1 => simp
  | case2 a pending ih =>
      have itself : store.Agrees (a, a) := Expr.alike_refl _
      simp [ih, itself]
  | case3 a b pending other differs =>
      have apart : ¬ store.Agrees (a, b) := by
        rw [agrees_turn, differs]
        simp
      simp [apart]
  | case4 a b pending other differs ih =>
      have turn := store.agrees_turn a b
      rw [ih, List.forall_mem_append, List.forall_mem_cons, turn]
      simp [differs]

theorem same_iff (a b : Node) : store.same a b = true ↔ (store.tree a).alike (store.tree b) = true := by
  rw [same, agree_iff, List.forall_mem_singleton]
  rfl

/-- Nodes are the same just where their expressions have, at the end of every path, nodes of one kind and one value or
none at all; places do not count. Nodes that are the same keep the same digest. -/
theorem same_exact (a b : Node) :
    (store.same a b = true ↔
      ∀ path, ((store.tree a).at? path).map Expr.mark = ((store.tree b).at? path).map Expr.mark) ∧
    (store.same a b = true → store.digest a = store.digest b) := by
  rw [same_iff, ← Expr.alike_iff_marks]
  refine ⟨Iff.rfl, ?_⟩
  intro alike
  rw [digest_tree, digest_tree]
  exact Expr.alike_digest mix _ _ alike

end Store

namespace Expr

theorem alike_same {a b : Expr} (alike : a.alike b = true) : a.same b = true :=
  ((asNodes mixHashes).same_iff a b).mpr alike

theorem same_alike {a b : Expr} (same : a.same b = true) : a.alike b = true :=
  ((asNodes mixHashes).same_iff a b).mp same

end Expr

end DigitCalc
