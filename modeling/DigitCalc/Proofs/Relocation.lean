import DigitCalc.Expr.Spelling
import DigitCalc.Proofs.Evaluation
import DigitCalc.Proofs.Exactness

/-! Places are carried along and never looked at. If the places of the tokens are moved, the nodes that are made of them
have the moved places, and the parser answers the same in every other respect: it makes the same turns, needs the same
calls and finds the same faults. Evaluation moves nothing but the place in a fault, and no written form of an expression
has a place in it. -/
namespace DigitCalc

def Token.relocate (move : Place → Place) (token : Token) : Token :=
  { token with place := move token.place }

theorem Token.kind_relocate (move : Place → Place) (token : Token) : (token.relocate move).kind = token.kind :=
  rfl

theorem Token.value_relocate (move : Place → Place) (token : Token) : (token.relocate move).value = token.value :=
  rfl

def Expr.relocate (move : Place → Place) : Expr → Expr
  | .digit value place => .digit value (move place)
  | .negative operand place => .negative (operand.relocate move) (move place)
  | .binary operator left right place =>
      .binary operator (left.relocate move) (right.relocate move) (move place)

namespace Grammar
variable {move : Place → Place}

def Cursor.relocate (move : Place → Place) (cursor : Cursor) : Cursor :=
  ⟨cursor.position, cursor.rest.map (Token.relocate move)⟩

def Outcome.relocate (move : Place → Place) (outcome : Outcome) : Outcome :=
  outcome.map fun found => (found.1.relocate move, found.2.relocate move)

/-- The procedure takes places with it and answers by nothing else in them. -/
def Follows (move : Place → Place) (procedure : Procedure) : Prop :=
  ∀ budget cursor, procedure budget (cursor.relocate move) = Outcome.relocate move (procedure budget cursor)

theorem bind_relocate {onward moved : Expr × Cursor → Outcome}
    (same : ∀ tree next, moved (tree.relocate move, next.relocate move) = Outcome.relocate move (onward (tree, next)))
    (outcome : Outcome) : (Outcome.relocate move outcome).bind moved = Outcome.relocate move (outcome.bind onward) := by
  rcases outcome with fault | ⟨tree, next⟩
  · rfl
  · exact same tree next

theorem entering_follows {procedure work : Procedure}
    (enters : ∀ budget cursor, procedure budget cursor = budget.enter.bind fun inner => work inner cursor)
    (follows : Follows move work) : Follows move procedure := by
  intro budget cursor
  rw [enters, enters]
  cases budget.enter with
  | error fault => rfl
  | ok inner => exact follows inner cursor

theorem chainFrom_relocate (operator? : TokenKind → Option Operator) {operand : Procedure}
    (follows : Follows move operand) (budget : Budget) (turns : List Token) (left : Expr) (cursor : Cursor) :
    chainFrom operator? operand budget (turns.map (Token.relocate move)) (left.relocate move) (cursor.relocate move) =
      Outcome.relocate move (chainFrom operator? operand budget turns left cursor) := by
  -- The sign of a turn gives its place to the new node, so what stands to the left changes from turn to turn.
  induction turns generalizing left cursor with
  | nil => rfl
  | cons first turns ih =>
      obtain ⟨position, rest⟩ := cursor
      cases rest with
      | nil => rfl
      | cons token rest =>
          cases known : operator? token.kind with
          | none =>
              simp only [chainFrom, Cursor.relocate, List.map_cons, token.kind_relocate, known]
              rfl
          | some operator =>
              have read := follows budget ⟨position + 1, rest⟩
              simp only [chainFrom, Cursor.relocate, List.map_cons, token.kind_relocate, known, Cursor.past] at read ⊢
              rw [read]
              rcases operand budget ⟨position + 1, rest⟩ with fault | ⟨right, next⟩
              · rfl
              · exact ih (.binary operator left right token.place) next

theorem chain_follows (operator? : TokenKind → Option Operator) {operand : Procedure}
    (follows : Follows move operand) : Follows move (chain operator? operand) := by
  refine entering_follows (fun _ _ => rfl) ?_
  intro budget cursor
  change (operand budget (cursor.relocate move)).bind _ = Outcome.relocate move ((operand budget cursor).bind _)
  rw [follows]
  exact bind_relocate (fun first next => chainFrom_relocate operator? follows budget next.rest first next) _

theorem within_follows {inner : Procedure} (follows : Follows move inner) : Follows move (within inner) :=
  entering_follows (fun _ _ => rfl) follows

theorem unaryWith_follows (limit : Int) {atom : Procedure} {deeper : Option Procedure} (follows : Follows move atom)
    (below : ∀ procedure ∈ deeper, Follows move procedure) : Follows move (unaryWith limit atom deeper) := by
  refine entering_follows (fun _ _ => rfl) ?_
  rintro budget ⟨position, rest⟩
  cases rest with
  | nil => rfl
  | cons token rest =>
      by_cases minus : token.kind = .minus
      · simp only [Cursor.relocate, List.map_cons, token.kind_relocate, if_pos minus]
        cases deeper with
        | none => rfl
        | some procedure =>
            have read := below procedure rfl budget ⟨position + 1, rest⟩
            simp only [Cursor.relocate, Cursor.past] at read ⊢
            rw [read]
            exact bind_relocate (fun _ _ => rfl) _
      · simp only [Cursor.relocate, List.map_cons, token.kind_relocate, if_neg minus]
        exact follows budget ⟨position, token :: rest⟩

theorem close_relocate (inside : Expr) (cursor : Cursor) :
    close (inside.relocate move) (cursor.relocate move) = Outcome.relocate move (close inside cursor) := by
  obtain ⟨position, rest⟩ := cursor
  cases rest with
  | nil => rfl
  | cons token rest =>
      by_cases closes : token.kind = .closeParen
      · simp only [close, Cursor.relocate, List.map_cons, token.kind_relocate, if_pos closes]
        rfl
      · simp only [close, Cursor.relocate, List.map_cons, token.kind_relocate, if_neg closes]
        rfl

theorem atomWith_follows (limit : Int) {deeper : Option Procedure}
    (below : ∀ procedure ∈ deeper, Follows move procedure) : Follows move (atomWith limit deeper) := by
  refine entering_follows (fun _ _ => rfl) ?_
  rintro budget ⟨position, rest⟩
  cases rest with
  | nil => rfl
  | cons token rest =>
      simp only [Cursor.relocate, List.map_cons, token.kind_relocate, token.value_relocate]
      cases kind : token.kind with
      | digit => cases token.value.digit? <;> rfl
      | openParen =>
          cases deeper with
          | none => rfl
          | some procedure =>
              have read := below procedure rfl budget ⟨position + 1, rest⟩
              simp only [Cursor.relocate, Cursor.past] at read ⊢
              rw [read]
              exact bind_relocate close_relocate _
      | _ => rfl

theorem procedure_follows (move : Place → Place) (limit : Int) (level : Level) (room : Nat) :
    Follows move (level.procedure limit room) := by
  induction level, room using procedures_induction with
  | atom room inside =>
      rw [Level.procedure, atom_eq]
      exact atomWith_follows limit (deeper?_all inside)
  | unary room atoms inside =>
      rw [Level.procedure, unary_eq]
      exact unaryWith_follows limit atoms (deeper?_all inside)
  | chain level inner operator? layer room operands =>
      rw [chain_eq layer]
      exact within_follows (chain_follows operator? operands)

theorem whole_relocate (move : Place → Place) (limit : Int) (budget : Budget) (tokens : List Token) :
    whole limit budget (tokens.map (Token.relocate move)) = (whole limit budget tokens).map (Expr.relocate move) := by
  have read := procedure_follows move limit .expression limit.toNat budget ⟨0, tokens⟩
  change expression limit limit.toNat budget ⟨0, tokens.map (Token.relocate move)⟩ =
    Outcome.relocate move (expression limit limit.toNat budget ⟨0, tokens⟩) at read
  rw [whole_eq, whole_eq, read]
  rcases expression limit limit.toNat budget ⟨0, tokens⟩ with fault | ⟨tree, position, rest⟩
  · rfl
  · cases rest <;> rfl

end Grammar

theorem Expr.ofTokensWith_relocate (move : Place → Place) (budget : Grammar.Budget) (limit : Int)
    (tokens : List Token) : ofTokensWith budget limit (tokens.map (Token.relocate move)) =
      (ofTokensWith budget limit tokens).map (relocate move) := by
  unfold ofTokensWith
  cases Grammar.checkLimit limit with
  | error fault => rfl
  | ok allowed =>
      change Grammar.telling _ = (Grammar.telling _).map _
      rw [Grammar.whole_relocate]
      cases Grammar.whole limit budget tokens <;> rfl

/-! The value of an expression. -/

def EvalFault.relocate (move : Place → Place) : EvalFault → EvalFault
  | .divisionByZero place => .divisionByZero (move place)
  | .noRule kind place => .noRule kind (move place)
  | .noOperand => .noOperand

theorem Operator.apply_relocate (move : Place → Place) (operator : Operator) (place : Place) (x y : Int) :
    operator.apply (move place) x y = (operator.apply place x y).mapError (EvalFault.relocate move) := by
  cases operator with
  | div =>
      by_cases zero : y = 0
      · simp only [apply, if_pos zero]
        rfl
      · simp only [apply, if_neg zero]
        rfl
  | _ => rfl

namespace Expr

theorem value_relocate (move : Place → Place) (hasRule : Kind → Bool) (tree : Expr) :
    (tree.relocate move).value hasRule = (tree.value hasRule).mapError (EvalFault.relocate move) := by
  induction tree with
  | digit number place =>
      simp only [relocate, value]
      cases hasRule .digit <;> rfl
  | negative operand place ih =>
      simp only [relocate, value, ih]
      cases operand.value hasRule with
      | error fault => rfl
      | ok x => cases hasRule .negative <;> rfl
  | binary operator left right place ih_left ih_right =>
      simp only [relocate, value_binary, ih_left, ih_right]
      cases left.value hasRule with
      | error fault => rfl
      | ok x =>
          cases right.value hasRule with
          | error fault => rfl
          | ok y =>
              change (if hasRule (.binary operator) then operator.apply (move place) x y else _) =
                Except.mapError _ (if hasRule (.binary operator) then operator.apply place x y else _)
              cases hasRule (.binary operator) with
              | false => rfl
              | true => exact operator.apply_relocate move place x y

theorem evaluate_relocate (move : Place → Place) (tree : Expr) :
    (tree.relocate move).evaluate = tree.evaluate.mapError (EvalFault.relocate move) := by
  rw [evaluate, evaluateWith_value, evaluateWith_value, value_relocate]

end Expr

/-! The written forms of an expression. -/

def Piece.relocate (move : Place → Place) : Piece → Piece
  | .text content => .text content
  | .expr tree => .expr (tree.relocate move)

theorem Layout.write_relocate {layout : Layout} {move : Place → Place}
    (lays : ∀ tree, layout.pieces (tree.relocate move) = (layout.pieces tree).map (Piece.relocate move))
    (tree : Expr) : layout.write (tree.relocate move) = layout.write tree := by
  have all (written : String) (pieces : List Piece) :
      layout.writeAll written (pieces.map (Piece.relocate move)) = layout.writeAll written pieces := by
    fun_induction layout.writeAll written pieces with
    | case1 written => rw [List.map_nil, writeAll]
    | case2 written content later ih => rw [List.map_cons, Piece.relocate, writeAll, ih]
    | case3 written tree later ih => rw [List.map_cons, Piece.relocate, writeAll, lays, ← List.map_append, ih]
  exact all "" [.expr tree]

namespace Expr

theorem kind_relocate (move : Place → Place) (tree : Expr) : (tree.relocate move).kind = tree.kind := by
  cases tree <;> rfl

theorem grouped_relocate (move : Place → Place) (needed : Bool) (operand : Expr) :
    grouped needed (operand.relocate move) = (grouped needed operand).map (Piece.relocate move) := by
  cases needed <;> rfl

theorem source_relocate (move : Place → Place) (tree : Expr) : (tree.relocate move).source = tree.source := by
  refine Layout.write_relocate ?_ tree
  intro tree
  -- Where parentheses go depends on the kinds of the operands.
  cases tree with
  | digit value place => rfl
  | negative operand place =>
      simp only [sourceLayout, relocate, needsGroupNegated, kind_relocate, grouped_relocate, List.map_cons]
      rfl
  | binary operator left right place =>
      simp only [sourceLayout, relocate, needsGroupLeft, needsGroupRight, kind_relocate, grouped_relocate,
        List.map_append, List.map_cons]
      rfl

theorem outline_relocate (move : Place → Place) (tree : Expr) : (tree.relocate move).outline = tree.outline := by
  refine Layout.write_relocate ?_ tree
  intro tree
  cases tree <;> rfl

/-- Expressions are alike if they are one once all their places are. -/
theorem alike_of_relocate {here : Place} {a b : Expr}
    (same : a.relocate (fun _ => here) = b.relocate (fun _ => here)) : a.alike b = true := by
  induction a generalizing b with
  | digit value place =>
      cases b with
      | digit other there =>
          cases same
          exact beq_self_eq_true value
      | _ => cases same
  | negative operand place ih =>
      cases b with
      | negative other there => exact ih (negative.inj same).1
      | _ => cases same
  | binary operator left right place ih_left ih_right =>
      cases b with
      | binary other first last there =>
          obtain ⟨rfl, lefts, rights, _⟩ := binary.inj same
          simp only [alike, ih_left lefts, ih_right rights, beq_self_eq_true, Bool.and_self]
      | _ => cases same

theorem relocate_of_alike {a b : Expr} (alike : a.alike b = true) (here : Place) :
    a.relocate (fun _ => here) = b.relocate (fun _ => here) := by
  induction a generalizing b with
  | digit value place =>
      cases b with
      | digit other there =>
          cases eq_of_beq alike
          rfl
      | _ => cases alike
  | negative operand place ih =>
      cases b with
      | negative other there => rw [relocate, relocate, ih alike]
      | _ => cases alike
  | binary operator left right place ih_left ih_right =>
      cases b with
      | binary other first last there =>
          simp only [Expr.alike, Bool.and_eq_true, beq_iff_eq] at alike
          obtain ⟨⟨rfl, lefts⟩, rights⟩ := alike
          rw [relocate, relocate, ih_left lefts, ih_right rights]
      | _ => cases alike

end Expr

end DigitCalc
