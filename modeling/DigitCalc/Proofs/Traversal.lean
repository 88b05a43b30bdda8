import DigitCalc.Proofs.Evaluation
import DigitCalc.Proofs.Exactness
import Mathlib.Data.List.Forall2

/-! The nodes of an expression in the order of the tokens that made them. A token that is no parenthesis makes one node
and gives it its place; a negation stands before its operand, and an operator between its two. -/
namespace DigitCalc

inductive Role : TokenKind → Kind → Prop where
  | digit : Role .digit .digit
  | sum : Role .plus (.binary .sum)
  | diff : Role .minus (.binary .diff)
  | negative : Role .minus .negative
  | prod : Role .times (.binary .prod)
  | div : Role .division (.binary .div)

/-- The token made the node. -/
structure Token.Makes (token : Token) (node : Expr) : Prop where
  role : Role token.kind node.kind
  place : node.place = token.place
  value : ∀ value, node.digit? = some value → token.value = .int value

namespace Expr

/-- All nodes, each between its operands, or before its only one. -/
def inorder : Expr → List Expr
  | .digit value place => [.digit value place]
  | .negative operand place => .negative operand place :: operand.inorder
  | .binary operator left right place => left.inorder ++ .binary operator left right place :: right.inorder

theorem mem_inorder_iff (tree node : Expr) : node ∈ tree.inorder ↔ node ∈ tree.postorder := by
  induction tree with
  | digit value place => rfl
  | negative operand place ih => simp [inorder, postorder, ih, or_comm]
  | binary operator left right place ih_left ih_right =>
      simp [inorder, postorder, ih_left, ih_right, or_comm]

end Expr

namespace Grammar

def marks (tokens : List Token) : List Token :=
  tokens.filter (!isParen ·.kind)

theorem marks_append (first later : List Token) : marks (first ++ later) = marks first ++ marks later :=
  List.filter_append first later

theorem marks_paren {token : Token} (paren : isParen token.kind = true) (rest : List Token) :
    marks (token :: rest) = marks rest := by
  simp [marks, paren]

theorem marks_role {token : Token} {kind : Kind} (role : Role token.kind kind) (rest : List Token) :
    marks (token :: rest) = token :: marks rest := by
  have plain : isParen token.kind = false := by
    obtain ⟨kind, value, place⟩ := token
    cases role <;> rfl
  simp [marks, plain]

theorem makes_inner {token : Token} {node : Expr} (role : Role token.kind node.kind) (place : node.place = token.place)
    (inner : node.digit? = none) : token.Makes node := by
  refine ⟨role, place, ?_⟩
  intro value digit
  rw [inner] at digit
  cases digit

theorem sign_role {level inner : Level} {operator? : TokenKind → Option Operator} {kind : TokenKind}
    {operator : Operator} (layer : Layer level inner operator?) (known : operator? kind = some operator) :
    Role kind (.binary operator) := by
  cases layer <;> cases kind <;> cases known <;> constructor

theorem turns_inorder {level inner : Level} {operator? : TokenKind → Option Operator}
    (layer : Layer level inner operator?) (turns : List Turn)
    (signs : ∀ turn ∈ turns, operator? turn.sign.kind = some turn.operator)
    (operands : ∀ turn ∈ turns, List.Forall₂ Token.Makes (marks turn.tokens) turn.tree.inorder) {tokens : List Token}
    {left : Expr} (made : List.Forall₂ Token.Makes (marks tokens) left.inorder) :
    List.Forall₂ Token.Makes (marks (tokens ++ Turn.spelling turns)) (Turn.fold left turns).inorder := by
  induction turns generalizing tokens left with
  | nil => simpa [Turn.spelling, Turn.fold] using made
  | cons turn rest ih =>
      have role := sign_role layer (signs turn List.mem_cons_self)
      have between : turn.sign.Makes (.binary turn.operator left turn.tree turn.sign.place) := makes_inner role rfl rfl
      have longer : List.Forall₂ Token.Makes (marks (tokens ++ turn.sign :: turn.tokens))
          (Expr.binary turn.operator left turn.tree turn.sign.place).inorder := by
        rw [marks_append, marks_role role]
        exact List.rel_append made (.cons between (operands turn List.mem_cons_self))
      have later := ih (fun turn member => signs turn (List.mem_cons_of_mem _ member))
        (fun turn member => operands turn (List.mem_cons_of_mem _ member)) longer
      rw [Turn.spelling_cons, Turn.fold_cons]
      simpa using later

/-- Every token but the parentheses makes one node, in order, with its place. -/
theorem spells_inorder {level : Level} {tokens : List Token} {tree : Expr} {nesting : Nat}
    (spelled : Spells level tokens tree nesting) : List.Forall₂ Token.Makes (marks tokens) tree.inorder := by
  induction spelled with
  | @digit token value kind carried =>
      have role : Role token.kind .digit := by
        rw [kind]
        exact .digit
      have made : token.Makes (.digit value token.place) := by
        refine ⟨role, rfl, ?_⟩
        intro found same
        cases same
        exact carried
      rw [marks_role role]
      exact .cons made .nil
  | @group opening closing tokens _ _ opens inside closes ih =>
      have opened : isParen opening.kind = true := by rw [opens]; rfl
      have closed : isParen closing.kind = true := by rw [closes]; rfl
      rw [marks_paren opened, marks_append, marks_paren closed]
      simpa [marks] using ih
  | plain operand ih => exact ih
  | @negated sign tokens tree _ minus operand ih =>
      have role : Role sign.kind .negative := by
        rw [minus]
        exact .negative
      have made : sign.Makes (.negative tree sign.place) := makes_inner role rfl rfl
      rw [marks_role role]
      exact .cons made ih
  | chain layer first signs operands ih_first ih_operands => exact turns_inorder layer _ signs ih_operands ih_first

theorem spells_made {level : Level} {tokens : List Token} {tree node : Expr} {nesting : Nat}
    (spelled : Spells level tokens tree nesting) (member : node ∈ tree.postorder) :
    ∃ token ∈ tokens, token.Makes node := by
  have ordered := spells_inorder spelled
  obtain ⟨i, within, rfl⟩ := List.getElem_of_mem ((tree.mem_inorder_iff node).mpr member)
  have along : i < (marks tokens).length := by rwa [ordered.length_eq]
  exact ⟨(marks tokens)[i], List.mem_of_mem_filter (List.getElem_mem along), ordered.get along within⟩

/-- The nodes of an expression that is read, from left to right, are the tokens that are no parentheses, one by one:
each of the kind that its token stands for and at its token's place, and a digit with its token's value. -/
theorem ofTokensWith_inorder {budget : Budget} {limit : Int} {tokens : List Token} {tree : Expr}
    (parsed : Expr.ofTokensWith budget limit tokens = .ok tree) :
    List.Forall₂ Token.Makes (marks tokens) tree.inorder := by
  obtain ⟨_, _, nesting, spelled, _⟩ := ofTokensWith_ok parsed
  exact spells_inorder spelled

theorem ofTokensWith_inorder_negatedGroup : ∃ tree, Expr.ofTokensWith (.ofStack .ofCommand) 2 negatedGroup = .ok tree ∧
    tree.inorder.map Expr.kind = [.negative, .digit, .binary .diff, .digit, .binary .prod, .digit] ∧
    tree.inorder.map Expr.place = [⟨1, 1⟩, ⟨1, 3⟩, ⟨1, 4⟩, ⟨1, 5⟩, ⟨1, 7⟩, ⟨1, 8⟩] ∧
    List.Forall₂ Token.Makes (marks negatedGroup) tree.inorder := by
  have parsed : Expr.ofTokensWith (.ofStack .ofCommand) 2 negatedGroup = .ok (.binary .prod
      (.negative (.binary .diff (.digit 8 ⟨1, 3⟩) (.digit 3 ⟨1, 5⟩) ⟨1, 4⟩) ⟨1, 1⟩) (.digit 2 ⟨1, 8⟩) ⟨1, 7⟩) := rfl
  exact ⟨_, parsed, rfl, rfl, ofTokensWith_inorder parsed⟩

end Grammar

end DigitCalc
