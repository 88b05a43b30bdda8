import DigitCalc.Expr
import DigitCalc.Expr.Record
import DigitCalc.Stack

/-! The record of an expression, put together node by node. Nodes wait in a row, each for the list that its record goes
into. The first of them is given a record with an empty list of its own, the record goes to the end of its list, and
the children of the node wait in front of all others for the new list. So a list still fills while the record that
holds it lies in another list that fills as well. -/
namespace DigitCalc

/-- A record whose list may still grow; the records in the list are told by their numbers. -/
structure Draft where
  kind : String
  value : Option Nat
  line : Int
  column : Int
  children : List Nat
  deriving DecidableEq, Repr

namespace Draft

def ofNode (node : Expr) : Draft :=
  ⟨node.kind.name, node.digit?.map Fin.val, node.place.line, node.place.column, []⟩

def add (number : Nat) (draft : Draft) : Draft :=
  { draft with children := draft.children ++ [number] }

end Draft

/-- The drafts made so far, in the order of their numbers, and the one list that belongs to no draft. -/
structure Filing where
  drafts : List Draft
  outermost : List Nat
  deriving DecidableEq, Repr

namespace Filing

def put (filing : Filing) (number : Nat) : Option Nat → Filing
  | none => { filing with outermost := filing.outermost ++ [number] }
  | some owner => { filing with drafts := filing.drafts.modify owner (Draft.add number) }

def enter (filing : Filing) (node : Expr) (owner : Option Nat) : Filing :=
  put { filing with drafts := filing.drafts ++ [Draft.ofNode node] } filing.drafts.length owner

def run (filing : Filing) : List (Expr × Option Nat) → Filing
  | [] => filing
  | (node, owner) :: waiting =>
      run (filing.enter node owner) (node.children.map (fun child => (child, some filing.drafts.length)) ++ waiting)
termination_by waiting => Expr.sizes (waiting.map Prod.fst)
decreasing_by
  simp only [List.map_append, List.map_map, List.map_cons, Expr.sizes_append, Expr.sizes]
  have same : Prod.fst ∘ (fun child : Expr => (child, some filing.drafts.length)) = id := rfl
  rw [same, List.map_id]
  exact Nat.add_lt_add_right node.children_smaller _

/-- The record with a number, if it was made after the draft with the number `last`, out of all these records. -/
def after (last : Nat) (records : List Record) (number : Nat) : Option Record :=
  if number ≤ last then none else records[number - (last + 1)]?

/-- The records that drafts stand for, if the first of them has the number `first`. A record holds only records that
were made after it, so the last draft is read first. -/
def read (first : Nat) : List Draft → Option (List Record)
  | [] => some []
  | draft :: later => do
      let records ← read (first + 1) later
      let children ← draft.children.mapM (after first records)
      return .node draft.kind draft.value draft.line draft.column children :: records

def head? (filing : Filing) : Option Record := do
  let number ← filing.outermost.head?
  let records ← read 0 filing.drafts
  records[number]?

end Filing

namespace Expr

def filed? (expr : Expr) : Option Record :=
  (Filing.run ⟨[], []⟩ [(expr, none)]).head?

/-! The record by recursion, which shows that there always is one. -/

def nested : Expr → Record
  | .digit value place => .node Kind.digit.name (some value) place.line place.column []
  | .negative operand place => .node Kind.negative.name none place.line place.column [operand.nested]
  | .binary operator left right place =>
      .node operator.name none place.line place.column [left.nested, right.nested]

def preorder : Expr → List Expr
  | .digit value place => [.digit value place]
  | .negative operand place => .negative operand place :: operand.preorder
  | .binary operator left right place => .binary operator left right place :: (left.preorder ++ right.preorder)

/-- The drafts of an expression when all its nodes have been entered and its own draft has the number `first`. -/
def drafts (first : Nat) : Expr → List Draft
  | .digit value place => [Draft.ofNode (.digit value place)]
  | .negative operand place =>
      { Draft.ofNode (.negative operand place) with children := [first + 1] } :: operand.drafts (first + 1)
  | .binary operator left right place =>
      { Draft.ofNode (.binary operator left right place) with children := [first + 1, first + left.size + 1] } ::
        (left.drafts (first + 1) ++ right.drafts (first + left.size + 1))

theorem preorder_length (tree : Expr) : tree.preorder.length = tree.size := by
  induction tree with
  | digit value place => rfl
  | negative operand place ih => simp [preorder, size, ih]
  | binary operator left right place ih_left ih_right => simp [preorder, size, ih_left, ih_right]

theorem drafts_length (first : Nat) (tree : Expr) : (tree.drafts first).length = tree.size := by
  induction tree generalizing first with
  | digit value place => rfl
  | negative operand place ih => simp [drafts, size, ih]
  | binary operator left right place ih_left ih_right => simp [drafts, size, ih_left, ih_right]

theorem preorder_head (tree : Expr) (records : List Record) :
    (tree.preorder.map nested ++ records)[0]? = some tree.nested := by
  cases tree <;> rfl

theorem preorder_next (tree next : Expr) (records : List Record) :
    (tree.preorder.map nested ++ (next.preorder.map nested ++ records))[tree.size]? = some next.nested := by
  rw [List.getElem?_append_right (by simp [preorder_length]), List.length_map, preorder_length, Nat.sub_self,
    preorder_head]

end Expr

namespace Filing

def file (filing : Filing) (tree : Expr) (owner : Option Nat) : Filing :=
  { filing.put filing.drafts.length owner with
    drafts := (filing.put filing.drafts.length owner).drafts ++ tree.drafts filing.drafts.length }

def Has (filing : Filing) (owner : Option Nat) : Prop :=
  ∀ number ∈ owner, number < filing.drafts.length

theorem put_length (filing : Filing) (number : Nat) (owner : Option Nat) :
    (filing.put number owner).drafts.length = filing.drafts.length := by
  cases owner <;> simp [put]

theorem modify_before (drafts later : List Draft) {owner : Nat} (inside : owner < drafts.length)
    (change : Draft → Draft) : (drafts ++ later).modify owner change = drafts.modify owner change ++ later := by
  induction drafts generalizing owner with
  | nil => simp at inside
  | cons draft drafts ih =>
      cases owner with
      | zero => rfl
      | succ owner => simpa using ih (Nat.lt_of_succ_lt_succ inside)

theorem modify_at (drafts later : List Draft) (draft : Draft) (change : Draft → Draft) :
    (drafts ++ draft :: later).modify drafts.length change = drafts ++ change draft :: later := by
  induction drafts with
  | nil => rfl
  | cons first drafts ih => simpa using ih

/-- The list that a record goes into was there before the record, so the record may as well be made last. -/
theorem run_cons {filing : Filing} {owner : Option Nat} (has : filing.Has owner) (node : Expr)
    (waiting : List (Expr × Option Nat)) : filing.run ((node, owner) :: waiting) =
      let kept := filing.put filing.drafts.length owner
      run ⟨kept.drafts ++ [Draft.ofNode node], kept.outermost⟩
        (node.children.map (fun child => (child, some kept.drafts.length)) ++ waiting) := by
  rw [run]
  cases owner with
  | none => rfl
  | some owner => simp [enter, put, modify_before _ _ (has owner rfl)]

theorem file_eq (filing : Filing) (tree : Expr) (owner : Option Nat) : filing.file tree owner =
    let kept := filing.put filing.drafts.length owner
    ⟨kept.drafts ++ tree.drafts kept.drafts.length, kept.outermost⟩ := by
  simp only [file, put_length]

theorem file_child (before later : List Draft) (draft : Draft) (outermost : List Nat) (child : Expr) :
    file ⟨before ++ draft :: later, outermost⟩ child (some before.length) =
      ⟨before ++ draft.add (before.length + later.length + 1) ::
        (later ++ child.drafts (before.length + later.length + 1)), outermost⟩ := by
  have count : (before ++ draft :: later).length = before.length + later.length + 1 := by
    simp [Nat.add_assoc]
  simp only [file, put, count, modify_at, List.append_assoc, List.cons_append]

/-- Entering a node and then everything below it files the whole expression, while the others wait. -/
theorem run_filed (tree : Expr) {filing : Filing} {owner : Option Nat} (has : filing.Has owner)
    (waiting : List (Expr × Option Nat)) :
    filing.run ((tree, owner) :: waiting) = (filing.file tree owner).run waiting := by
  induction tree generalizing filing owner waiting with
  | digit value place =>
      rw [run_cons has, file_eq]
      rfl
  | negative operand place ih =>
      rw [run_cons has, file_eq]
      generalize filing.put filing.drafts.length owner = kept
      have own : Has ⟨kept.drafts ++ [Draft.ofNode (.negative operand place)], kept.outermost⟩
          (some kept.drafts.length) := by
        simp [Has]
      exact (ih own waiting).trans (congrArg (run · waiting) (file_child kept.drafts [] _ kept.outermost operand))
  | binary operator left right place ih_left ih_right =>
      rw [run_cons has, file_eq]
      generalize filing.put filing.drafts.length owner = kept
      have own (draft : Draft) (later : List Draft) :
          Has ⟨kept.drafts ++ draft :: later, kept.outermost⟩ (some kept.drafts.length) := by
        simp [Has]
      -- When the right child is entered, the drafts of the left one lie behind the common parent.
      have first := ih_left (own (Draft.ofNode (.binary operator left right place)) [])
        ((right, some kept.drafts.length) :: waiting)
      rw [file_child, ih_right (own _ _), file_child] at first
      refine first.trans ?_
      simp [Expr.drafts, Expr.drafts_length, Draft.add, Draft.ofNode]

theorem after_first (last index : Nat) (records : List Record) :
    after last records (last + index + 1) = records[index]? := by
  have index_left : last + index + 1 - (last + 1) = index := by omega
  rw [after, if_neg (by omega), index_left]

theorem read_cons {first : Nat} {draft : Draft} {later : List Draft} {records children : List Record}
    (known : read (first + 1) later = some records) (held : draft.children.mapM (after first records) = some children) :
    read first (draft :: later) =
      some (.node draft.kind draft.value draft.line draft.column children :: records) := by
  simp [read, known, held]

theorem read_drafts (tree : Expr) (first : Nat) {later : List Draft} {records : List Record}
    (known : read (first + tree.size) later = some records) :
    read first (tree.drafts first ++ later) = some (tree.preorder.map Expr.nested ++ records) := by
  -- What comes after the drafts of a left child are those of the right one, so the right one is read before it.
  induction tree generalizing first later records with
  | digit value place => exact read_cons known rfl
  | negative operand place ih =>
      have count : first + 1 + operand.size = first + (operand.size + 1) := by omega
      have below := @ih (first + 1) later records (by rwa [count])
      refine read_cons below ?_
      have child := (after_first first 0 _).trans (operand.preorder_head records)
      simp [child]
  | binary operator left right place ih_left ih_right =>
      have count : first + left.size + 1 + right.size = first + (left.size + right.size + 1) := by omega
      have start : first + 1 + left.size = first + left.size + 1 := by omega
      have beside := @ih_right (first + left.size + 1) later records (by rwa [count])
      have below := @ih_left (first + 1) _ _ (by rwa [start])
      have former := (after_first first 0 _).trans (left.preorder_head (right.preorder.map Expr.nested ++ records))
      have latter := (after_first first left.size _).trans (left.preorder_next right records)
      rw [Expr.drafts, List.cons_append, List.append_assoc]
      have held : [first + 1, first + left.size + 1].mapM
          (after first (left.preorder.map Expr.nested ++ (right.preorder.map Expr.nested ++ records))) =
            some [left.nested, right.nested] := by
        simp [former, latter]
      refine (read_cons below held).trans ?_
      rw [Expr.preorder, List.map_cons, List.map_append, List.cons_append, List.append_assoc]
      rfl

theorem head_filed (tree : Expr) : head? (run ⟨[], []⟩ [(tree, none)]) = some tree.nested := by
  have has : Has ⟨[], []⟩ none := by simp [Has]
  have records := read_drafts tree 0 (show read (0 + tree.size) [] = some [] from rfl)
  have first := tree.preorder_head []
  rw [List.append_nil] at records
  rw [run_filed tree has, run]
  change (read 0 (tree.drafts 0)).bind (fun records => records[0]?) = some tree.nested
  rw [records]
  exact first

end Filing

namespace Expr

theorem filed?_eq (expr : Expr) : expr.filed? = some expr.nested :=
  Filing.head_filed expr

def record (expr : Expr) : Record :=
  expr.filed?.get (by rw [filed?_eq]; rfl)

theorem record_nested (expr : Expr) : expr.record = expr.nested := by
  simp only [record, filed?_eq, Option.get_some]

/-- Writing JSON nests as deep as the tree. -/
def json? (stack : Stack) (isIndented : Bool) (expr : Expr) : Option String :=
  if expr.height ≤ stack.levels then
    some (if isIndented then expr.record.indented 0 else expr.record.compact)
  else none

end Expr

end DigitCalc
