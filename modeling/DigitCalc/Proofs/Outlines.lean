import DigitCalc.Proofs.Relocation
import DigitCalc.Proofs.Respelling

/-! An outline tells its expression, places aside. It begins with the kind of the root, and no beginning is the start of
another one; what follows tells the children one after another. So the text of one outline cannot be cut in two ways,
whatever comes after it. -/
namespace DigitCalc

namespace Kind

def opening : Kind → String
  | .digit => "ASTNode(digit, value="
  | .negative => "ASTNode(negative, children=["
  | .binary operator => "ASTNode(" ++ operator.name ++ ", children=["

theorem mem_all (kind : Kind) : kind ∈ all := by
  cases kind with
  | digit => decide
  | negative => decide
  | binary operator => cases operator <;> decide

theorem opening_apart (kind other : Kind) (starts : kind.opening.toList <+: other.opening.toList) : kind = other := by
  have among : ∀ kind ∈ all, ∀ other ∈ all, kind.opening.toList <+: other.opening.toList → kind = other := by decide
  exact among kind kind.mem_all other other.mem_all starts

theorem opening_cancel {kind other : Kind} {rest more : List Char}
    (same : kind.opening.toList ++ rest = other.opening.toList ++ more) : kind = other ∧ rest = more := by
  have first : kind.opening.toList <+: other.opening.toList ++ more := ⟨rest, same⟩
  have one : kind = other := by
    rcases List.prefix_or_prefix_of_prefix first (List.prefix_append _ _) with starts | starts
    · exact opening_apart kind other starts
    · exact (opening_apart other kind starts).symm
  subst other
  exact ⟨rfl, List.append_cancel_left same⟩

end Kind

namespace Expr

/-- The outline by recursion. -/
def outlined : Expr → String
  | .digit value _ => Kind.digit.opening ++ (String.singleton (Nat.digitChar value) ++ ")")
  | .negative operand _ => Kind.negative.opening ++ (operand.outlined ++ "])")
  | .binary operator left right _ =>
      (Kind.binary operator).opening ++ (left.outlined ++ (", " ++ (right.outlined ++ "])")))

theorem outline_outlined (tree : Expr) : tree.outline = tree.outlined := by
  apply Layout.write_eq
  intro tree
  cases tree with
  | digit value place =>
      simp only [outlineLayout, Layout.join, outlined, Kind.opening, String.append_assoc, String.append_empty]
  | negative operand place => simp [outlineLayout, Layout.join, outlined, Kind.opening]
  | binary operator left right place => simp [outlineLayout, Layout.join, outlined, Kind.opening, String.append_assoc]

theorem digitChar_injective {m n : Fin 10} (same : Nat.digitChar m = Nat.digitChar n) : m = n := by
  have among : ∀ m n : Fin 10, Nat.digitChar m = Nat.digitChar n → m = n := by decide
  exact among m n same

theorem outlined_opens (tree : Expr) (rest : List Char) :
    tree.kind.opening.toList <+: tree.outlined.toList ++ rest := by
  cases tree <;> simp only [outlined, kind, String.toList_append, List.append_assoc, List.prefix_append]

theorem outlined_kinds {a b : Expr} {rest more : List Char}
    (same : a.outlined.toList ++ rest = b.outlined.toList ++ more) : a.kind = b.kind := by
  obtain ⟨told, opens⟩ := a.outlined_opens rest
  obtain ⟨other, opens_too⟩ := b.outlined_opens more
  rw [← opens, ← opens_too] at same
  exact (Kind.opening_cancel same).1

/-- Where two texts begin with outlines and are the same, the outlines tell alike expressions and end at one place. -/
theorem outlined_cancel (a b : Expr) {rest more : List Char}
    (same : a.outlined.toList ++ rest = b.outlined.toList ++ more) : a.alike b = true ∧ rest = more := by
  -- The texts agree piece by piece; what comes after a child is a part of what comes after the node.
  induction a generalizing b rest more with
  | digit value place =>
      cases b with
      | digit other there =>
          simp only [outlined, String.toList_append, List.append_assoc] at same
          have told := (Kind.opening_cancel same).2
          rw [String.toList_singleton, String.toList_singleton] at told
          obtain ⟨chars, later⟩ := List.cons.inj told
          exact ⟨beq_iff_eq.mpr (digitChar_injective chars), List.append_cancel_left later⟩
      | _ => cases outlined_kinds same
  | negative operand place ih =>
      cases b with
      | negative other there =>
          simp only [outlined, String.toList_append, List.append_assoc] at same
          obtain ⟨operands, later⟩ := ih other (Kind.opening_cancel same).2
          exact ⟨operands, List.append_cancel_left later⟩
      | _ => cases outlined_kinds same
  | binary operator left right place ih_left ih_right =>
      cases b with
      | binary sign first last there =>
          cases outlined_kinds same
          simp only [outlined, String.toList_append, List.append_assoc] at same
          obtain ⟨lefts, middle⟩ := ih_left first (List.append_cancel_left same)
          obtain ⟨rights, later⟩ := ih_right last (List.append_cancel_left middle)
          refine ⟨?_, List.append_cancel_left later⟩
          simp [alike, lefts, rights]
      | _ => cases outlined_kinds same

/-- Two outlines are one text just where the expressions are the same. -/
theorem outline_faithful (a b : Expr) : a.outline = b.outline ↔ a.same b = true := by
  constructor
  · intro same
    rw [outline_outlined, outline_outlined] at same
    exact alike_same (outlined_cancel a b (congrArg (String.toList · ++ []) same)).1
  · intro same
    rw [← outline_relocate (fun _ => default) a, relocate_of_alike (same_alike same), outline_relocate]

end Expr

end DigitCalc
