import DigitCalc.Expr.Grammar

/-! The grammar as a relation, told without a cursor and without an order of reading.

    expression = term (("+" | "-") term)*
    term       = unary (("*" | "/") unary)*
    unary      = "-" atom | atom
    atom       = digit | "(" expression ")"

`Spells level tokens tree nesting` says that the tokens, all of them, derive from the level. The tree is that of the
derivation: chains lean to the left, and parentheses leave no trace. The nesting is the highest level at which a group
or a minus sign stands, each of the two lying one level deeper than what surrounds it. -/
namespace DigitCalc.Grammar

def isParen : TokenKind → Bool
  | .openParen | .closeParen => true
  | _ => false

/-- The levels that are chains, with the level of their operands and the operators between them. -/
inductive Layer : Level → Level → (TokenKind → Option Operator) → Prop where
  | expression : Layer .expression .term Operator.additive?
  | term : Layer .term .unary Operator.multiplicative?

theorem Layer.unique {level inner other : Level} {operator? operators : TokenKind → Option Operator}
    (layer : Layer level inner operator?) (shape : Layer level other operators) :
    inner = other ∧ operator? = operators := by
  cases layer <;> cases shape <;> exact ⟨rfl, rfl⟩

structure Turn where
  sign : Token
  operator : Operator
  tokens : List Token
  tree : Expr
  nesting : Nat

namespace Turn

def spelling (turns : List Turn) : List Token :=
  turns.flatMap fun turn => turn.sign :: turn.tokens

def fold (first : Expr) (turns : List Turn) : Expr :=
  turns.foldl (fun left turn => .binary turn.operator left turn.tree turn.sign.place) first

def deepest (first : Nat) (turns : List Turn) : Nat :=
  turns.foldl (fun nesting turn => max nesting turn.nesting) first

end Turn

inductive Spells : Level → List Token → Expr → Nat → Prop where
  | digit {token : Token} {value : Fin 10} (kind : token.kind = .digit) (carried : token.value = .int value) :
      Spells .atom [token] (.digit value token.place) 0
  | group {opening closing : Token} {tokens : List Token} {tree : Expr} {nesting : Nat}
      (opens : opening.kind = .openParen) (inside : Spells .expression tokens tree nesting)
      (closes : closing.kind = .closeParen) :
      Spells .atom (opening :: (tokens ++ [closing])) tree (nesting + 1)
  | plain {tokens : List Token} {tree : Expr} {nesting : Nat} (operand : Spells .atom tokens tree nesting) :
      Spells .unary tokens tree nesting
  | negated {sign : Token} {tokens : List Token} {tree : Expr} {nesting : Nat} (minus : sign.kind = .minus)
      (operand : Spells .atom tokens tree nesting) :
      Spells .unary (sign :: tokens) (.negative tree sign.place) (nesting + 1)
  | chain {level inner : Level} {operator? : TokenKind → Option Operator} (layer : Layer level inner operator?)
      {tokens : List Token} {tree : Expr} {nesting : Nat} {turns : List Turn}
      (first : Spells inner tokens tree nesting)
      (signs : ∀ turn ∈ turns, operator? turn.sign.kind = some turn.operator)
      (operands : ∀ turn ∈ turns, Spells inner turn.tokens turn.tree turn.nesting) :
      Spells level (tokens ++ Turn.spelling turns) (Turn.fold tree turns) (Turn.deepest nesting turns)

/-- The tokens spell the tree with no group and no minus sign above the limit. -/
def SpellsWithin (limit : Int) (tokens : List Token) (tree : Expr) : Prop :=
  ∃ nesting : Nat, Spells .expression tokens tree nesting ∧ nesting ≤ limit

namespace Turn

theorem deepest_le_iff (first room : Nat) (turns : List Turn) :
    deepest first turns ≤ room ↔ first ≤ room ∧ ∀ turn ∈ turns, turn.nesting ≤ room := by
  induction turns generalizing first with
  | nil => simp [deepest]
  | cons turn rest ih =>
      change deepest (max first turn.nesting) rest ≤ room ↔ _
      rw [ih, Nat.max_le]
      simp [and_assoc]

theorem lt_deepest_iff (first room : Nat) (turns : List Turn) :
    room < deepest first turns ↔ room < first ∨ ∃ turn ∈ turns, room < turn.nesting := by
  induction turns generalizing first with
  | nil => simp [deepest]
  | cons turn rest ih =>
      change room < deepest (max first turn.nesting) rest ↔ _
      have either : room < max first turn.nesting ↔ room < first ∨ room < turn.nesting := by omega
      rw [ih, either]
      simp [or_assoc]

theorem spelling_cons (turn : Turn) (rest : List Turn) :
    spelling (turn :: rest) = turn.sign :: (turn.tokens ++ spelling rest) := by
  simp [spelling]

theorem fold_cons (first : Expr) (turn : Turn) (rest : List Turn) :
    fold first (turn :: rest) = fold (.binary turn.operator first turn.tree turn.sign.place) rest :=
  rfl

end Turn

namespace Spells

variable {level inner : Level} {operator? : TokenKind → Option Operator}
variable {tokens right : List Token} {tree operand : Expr} {nesting depth : Nat}

theorem lone (layer : Layer level inner operator?) (spelled : Spells inner tokens tree nesting) :
    Spells level tokens tree nesting := by
  have signs : ∀ turn ∈ ([] : List Turn), operator? turn.sign.kind = some turn.operator := by simp
  have operands : ∀ turn ∈ ([] : List Turn), Spells inner turn.tokens turn.tree turn.nesting := by simp
  simpa [Turn.spelling, Turn.fold, Turn.deepest] using Spells.chain layer spelled signs operands

theorem extend (layer : Layer level inner operator?) (spelled : Spells level tokens tree nesting) {sign : Token}
    {operator : Operator} (known : operator? sign.kind = some operator) (last : Spells inner right operand depth) :
    Spells level (tokens ++ sign :: right) (.binary operator tree operand sign.place) (max nesting depth) := by
  -- A level that is a chain is spelled by the rule for chains only, and with the operators of its own layer.
  cases spelled with
  | @chain _ _ _ shape _ _ _ turns first signs operands =>
      obtain ⟨rfl, rfl⟩ := layer.unique shape
      let longer := turns ++ [⟨sign, operator, right, operand, depth⟩]
      have all_signs : ∀ turn ∈ longer, operator? turn.sign.kind = some turn.operator := by
        simpa [longer, or_imp, forall_and] using ⟨signs, known⟩
      have all_operands : ∀ turn ∈ longer, Spells inner turn.tokens turn.tree turn.nesting := by
        simpa [longer, or_imp, forall_and] using ⟨operands, last⟩
      simpa [longer, Turn.spelling, Turn.fold, Turn.deepest] using Spells.chain layer first all_signs all_operands
  | _ => cases layer

end Spells

end DigitCalc.Grammar
