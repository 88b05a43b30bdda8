import DigitCalc.Expr.Spelling
import DigitCalc.Proofs.Comparison
import DigitCalc.Proofs.Exactness
import DigitCalc.Proofs.Lexing

/-! The text that an expression is written as is read back as the same expression. The pieces that are written one
after another are first put together by recursion on the expression. A text then writes a level of the grammar if its
tokens, wherever it starts, spell the expression on that level. Precedences say where an operand goes without
parentheses, and they say so exactly where the grammar has the operand on the level that is wanted there. -/
namespace DigitCalc

namespace Layout

def join (text : Expr → String) : List Piece → String
  | [] => ""
  | .text content :: later => content ++ join text later
  | .expr tree :: later => text tree ++ join text later

theorem join_append (text : Expr → String) (first later : List Piece) :
    join text (first ++ later) = join text first ++ join text later := by
  induction first with
  | nil => exact String.empty_append.symm
  | cons piece rest ih => cases piece <;> simp only [List.cons_append, join, ih, String.append_assoc]

variable {layout : Layout} {text : Expr → String}

theorem writeAll_eq (laid : ∀ tree, text tree = join text (layout.pieces tree)) (written : String)
    (pieces : List Piece) : layout.writeAll written pieces = written ++ join text pieces := by
  fun_induction writeAll layout written pieces with
  | case1 written => exact String.append_empty.symm
  | case2 written content later ih => rw [ih, join, String.append_assoc]
  | case3 written tree later ih => rw [ih, join_append, join, ← laid]

theorem write_eq (laid : ∀ tree, text tree = join text (layout.pieces tree)) (tree : Expr) :
    layout.write tree = text tree := by
  rw [write, writeAll_eq laid, String.empty_append, join, join, String.append_empty]

end Layout

namespace Expr

def wrap (needed : Bool) (text : String) : String :=
  if needed then "(" ++ text ++ ")" else text

def text : Expr → String
  | .digit value _ => String.singleton (Nat.digitChar value)
  | .negative operand _ => "-" ++ wrap (needsGroupNegated operand) operand.text
  | .binary operator left right _ =>
      wrap (needsGroupLeft operator left) left.text ++
        (" " ++ operator.symbol ++ " " ++ wrap (needsGroupRight operator right) right.text)

theorem grouped_join (needed : Bool) (operand : Expr) :
    Layout.join text (grouped needed operand) = wrap needed operand.text := by
  cases needed <;> simp [grouped, Layout.join, wrap, String.append_assoc]

theorem source_text (tree : Expr) : tree.source = tree.text := by
  apply Layout.write_eq
  intro tree
  cases tree with
  | digit value place => simp [sourceLayout, Layout.join, text]
  | negative operand place => simp [sourceLayout, Layout.join, text, grouped_join]
  | binary operator left right place => simp [sourceLayout, Layout.join, Layout.join_append, text, grouped_join]

/-- How many levels the source of an expression opens: one for a pair of parentheses, one for a minus sign. -/
def nesting : Expr → Nat
  | .digit .. => 0
  | .negative operand _ => if operand.kind = .digit then 1 else 2 + operand.nesting
  | .binary operator left right _ =>
      max (if needsGroupLeft operator left then left.nesting + 1 else left.nesting)
        (if needsGroupRight operator right then right.nesting + 1 else right.nesting)

end Expr

/-! The levels on which expressions are written. -/

/-- How tightly a level binds; its numbers are those of the precedences. -/
def Grammar.Level.precedence : Grammar.Level → Nat
  | .expression => 1
  | .term => 2
  | .unary => 3
  | .atom => 4

namespace Operator

def level : Operator → Grammar.Level
  | .sum | .diff => .expression
  | .prod | .div => .term

def operandLevel : Operator → Grammar.Level
  | .sum | .diff => .term
  | .prod | .div => .unary

def ofToken? : Operator → TokenKind → Option Operator
  | .sum | .diff => additive?
  | .prod | .div => multiplicative?

theorem layer (operator : Operator) :
    Grammar.Layer operator.level operator.operandLevel operator.ofToken? := by
  cases operator <;> constructor

theorem level_precedence (operator : Operator) : operator.level.precedence = operator.precedence := by
  cases operator <;> rfl

theorem operandLevel_precedence (operator : Operator) :
    operator.operandLevel.precedence = operator.precedence + 1 := by
  cases operator <;> rfl

end Operator

def Kind.level : Kind → Grammar.Level
  | .digit => .atom
  | .negative => .unary
  | .binary operator => operator.level

theorem Kind.precedence_le_level (kind : Kind) : kind.precedence ≤ kind.level.precedence := by
  cases kind with
  | digit => decide
  | negative => decide
  | binary operator => exact Nat.le_of_eq operator.level_precedence.symm

namespace Grammar

theorem Spells.loosen {level : Level} (target : Level) {tokens : List Token} {tree : Expr} {nesting : Nat}
    (spelled : Spells level tokens tree nesting) (looser : target.precedence ≤ level.precedence) :
    Spells target tokens tree nesting := by
  have of_term : Spells .term tokens tree nesting → Spells .expression tokens tree nesting := .lone .expression
  have of_unary : Spells .unary tokens tree nesting → Spells .term tokens tree nesting := .lone .term
  have of_atom : Spells .atom tokens tree nesting → Spells .unary tokens tree nesting := .plain
  cases target with
  | atom =>
      cases level with
      | atom => exact spelled
      | _ => exact absurd looser (by decide)
  | unary =>
      cases level with
      | atom => exact of_atom spelled
      | unary => exact spelled
      | _ => exact absurd looser (by decide)
  | term =>
      cases level with
      | atom => exact of_unary (of_atom spelled)
      | unary => exact of_unary spelled
      | term => exact spelled
      | expression => exact absurd looser (by decide)
  | expression =>
      cases level with
      | atom => exact of_term (of_unary (of_atom spelled))
      | unary => exact of_term (of_unary spelled)
      | term => exact of_term spelled
      | expression => exact spelled

end Grammar

/-- The text is in the alphabet, and wherever it starts its tokens spell an expression like this one. -/
def Writes (level : Grammar.Level) (text : String) (tree : Expr) (nesting : Nat) : Prop :=
  (∀ c ∈ text.toList, c ∈ Reader.alphabet) ∧
    ∀ here, ∃ again, Grammar.Spells level (Reader.tokensFrom here text.toList) again nesting ∧ again.alike tree = true

namespace Writes
open Grammar Reader

theorem loosen {level : Level} (target : Level) {text : String} {tree : Expr} {nesting : Nat}
    (written : Writes level text tree nesting) (looser : target.precedence ≤ level.precedence) :
    Writes target text tree nesting := by
  constructor
  · exact written.1
  · intro here
    obtain ⟨again, spelled, alike⟩ := written.2 here
    exact ⟨again, spelled.loosen target looser, alike⟩

theorem digit_token (value : Fin 10) (here : Coordinates) :
    tokensFrom here [Nat.digitChar value] = [⟨.digit, .int value, here.place⟩] := by
  have dark : ∀ value : Fin 10, isBlank (Nat.digitChar value) = false := by decide
  have known : ∀ value : Fin 10, lexeme? (Nat.digitChar value) = some (.digit, .int value) := by decide
  simp [tokensFrom, tokenAt?, dark, known]

theorem digit (value : Fin 10) (place : Place) :
    Writes .atom (String.singleton (Nat.digitChar value)) (.digit value place) 0 := by
  have among : ∀ value : Fin 10, Nat.digitChar value ∈ alphabet := by decide
  rw [Writes, String.toList_singleton]
  constructor
  · simpa using among value
  · intro here
    refine ⟨.digit value here.place, ?_, beq_self_eq_true value⟩
    rw [digit_token]
    exact .digit rfl rfl

theorem group {text : String} {tree : Expr} {nesting : Nat} (written : Writes .expression text tree nesting) :
    Writes .atom ("(" ++ text ++ ")") tree (nesting + 1) := by
  rw [Writes, String.toList_append, String.toList_append]
  constructor
  · have opening : ∀ c ∈ "(".toList, c ∈ alphabet := alphabet_of_all (by decide)
    have closing : ∀ c ∈ ")".toList, c ∈ alphabet := alphabet_of_all (by decide)
    exact List.forall_mem_append.mpr ⟨List.forall_mem_append.mpr ⟨opening, written.1⟩, closing⟩
  · intro here
    obtain ⟨again, spelled, alike⟩ := written.2 (here.past '(')
    refine ⟨again, ?_, alike⟩
    rw [tokensFrom_append, tokensFrom_append]
    exact .group rfl spelled rfl

theorem negative {text : String} {operand : Expr} {nesting : Nat} (place : Place)
    (written : Writes .atom text operand nesting) :
    Writes .unary ("-" ++ text) (.negative operand place) (nesting + 1) := by
  rw [Writes, String.toList_append]
  constructor
  · have sign : ∀ c ∈ "-".toList, c ∈ alphabet := alphabet_of_all (by decide)
    exact List.forall_mem_append.mpr ⟨sign, written.1⟩
  · intro here
    obtain ⟨again, spelled, alike⟩ := written.2 (here.past '-')
    refine ⟨.negative again here.place, ?_, alike⟩
    rw [tokensFrom_append]
    exact @Spells.negated ⟨.minus, .text "-", here.place⟩ _ _ _ rfl spelled

def Separates (operator : Operator) (text : String) : Prop :=
  (∀ c ∈ text.toList, c ∈ alphabet) ∧
    ∀ here, ∃ sign, tokensFrom here text.toList = [sign] ∧ operator.ofToken? sign.kind = some operator

theorem sign (operator : Operator) : Separates operator (" " ++ operator.symbol ++ " ") := by
  constructor
  · cases operator <;> exact alphabet_of_all (by decide)
  · intro here
    cases operator <;> exact ⟨_, rfl, rfl⟩

theorem separated {operator : Operator} {left middle right : String} {first last : Expr} {m n : Nat} (place : Place)
    (lefts : Writes operator.level left first m) (separates : Separates operator middle)
    (rights : Writes operator.operandLevel right last n) :
    Writes operator.level (left ++ (middle ++ right)) (.binary operator first last place) (max m n) := by
  obtain ⟨among, signs⟩ := separates
  rw [Writes, String.toList_append, String.toList_append]
  constructor
  · exact List.forall_mem_append.mpr ⟨lefts.1, List.forall_mem_append.mpr ⟨among, rights.1⟩⟩
  · intro here
    obtain ⟨first_again, first_spelled, first_alike⟩ := lefts.2 here
    -- The sign and the right operand start further on; what they are does not depend on where.
    obtain ⟨sign, token, known⟩ := signs (left.toList.foldl .past here)
    obtain ⟨last_again, last_spelled, last_alike⟩ := rights.2 _
    refine ⟨.binary operator first_again last_again sign.place, ?_, ?_⟩
    · rw [tokensFrom_append, tokensFrom_append, token]
      exact first_spelled.extend operator.layer known last_spelled
    · simp [Expr.alike, first_alike, last_alike]

theorem binary {operator : Operator} {left right : String} {first last : Expr} {m n : Nat} (place : Place)
    (lefts : Writes operator.level left first m) (rights : Writes operator.operandLevel right last n) :
    Writes operator.level (left ++ (" " ++ operator.symbol ++ " " ++ right)) (.binary operator first last place)
      (max m n) :=
  lefts.separated place (sign operator) rights

/-- An operand goes in parentheses where its own level is not tight enough. -/
theorem wrap {level target : Level} {needed : Bool} {text : String} {tree : Expr} {nesting : Nat}
    (written : Writes level text tree nesting) (fits : needed = false → target.precedence ≤ level.precedence) :
    Writes target (Expr.wrap needed text) tree (if needed then nesting + 1 else nesting) := by
  cases needed with
  | false => exact written.loosen target (fits rfl)
  -- Parentheses turn an expression of any level into an atom, which then goes everywhere.
  | true =>
      have inside := written.loosen .expression (by cases level <;> decide)
      exact inside.group.loosen target (by cases target <;> decide)

end Writes

namespace Expr

/-- A digit opens no level, so a minus sign counts on top of its operand with or without parentheses. -/
theorem nesting_negative (operand : Expr) (place : Place) : nesting (.negative operand place) =
    (if needsGroupNegated operand then operand.nesting + 1 else operand.nesting) + 1 := by
  cases operand with
  | digit value there => rfl
  | negative inner there => exact Nat.add_comm 2 _
  | binary operator left right there => exact Nat.add_comm 2 _

theorem text_writes (tree : Expr) : Writes tree.kind.level tree.text tree tree.nesting := by
  induction tree with
  | digit value place => exact .digit value place
  | negative operand place ih =>
      have fits (bare : needsGroupNegated operand = false) :
          Grammar.Level.atom.precedence ≤ operand.kind.level.precedence := by
        have digit : operand.kind = .digit := by simpa [needsGroupNegated] using bare
        rw [digit]
        exact Nat.le_refl _
      rw [nesting_negative]
      exact (ih.wrap fits).negative place
  | binary operator left right place ih_left ih_right =>
      have left_fits (bare : needsGroupLeft operator left = false) :
          operator.level.precedence ≤ left.kind.level.precedence := by
        rw [operator.level_precedence]
        exact Nat.le_trans (Nat.le_of_not_lt (of_decide_eq_false bare)) left.kind.precedence_le_level
      have right_fits (bare : needsGroupRight operator right = false) :
          operator.operandLevel.precedence ≤ right.kind.level.precedence := by
        rw [operator.operandLevel_precedence]
        exact Nat.le_trans (Nat.lt_of_not_le (of_decide_eq_false bare)) right.kind.precedence_le_level
      exact Writes.binary place (ih_left.wrap left_fits) (ih_right.wrap right_fits)

/-- Source has tokens, and read within any limit they give the expression back if the limit is no lower than the
levels that the source opens; under a lower limit reading fails for the nesting. -/
theorem source_reparses (tree : Expr) :
    ∃ tokens, Token.ofText tree.source = .ok tokens ∧
      ∀ budget limit, 1 ≤ limit → Expr.ofTokensWith budget limit tokens ≠ .error .outOfCalls →
        (tree.nesting ≤ limit →
          ∃ again, Expr.ofTokensWith budget limit tokens = .ok again ∧ again.same tree = true) ∧
        (limit < tree.nesting →
          ∃ position, Expr.ofTokensWith budget limit tokens = .error (.grammar (.tooDeep limit position))) := by
  have written := tree.text_writes.loosen .expression (by cases tree.kind.level <;> decide)
  obtain ⟨again, spelled, alike⟩ := written.2 .start
  refine ⟨Reader.tokensFrom .start tree.text.toList, ?_, ?_⟩
  · rw [source_text, Reader.ofText_reading, Reader.reading_known .start written.1]
  · intro budget limit positive answered
    rw [Grammar.ofTokensWith_uncounted budget positive _ answered]
    simp only [Grammar.telling_eq_ok, Grammar.telling_tooDeep]
    constructor
    · intro fits
      exact ⟨again, (Grammar.whole_ok_iff limit (by omega) _ again).mpr ⟨_, spelled, fits⟩, alike_same alike⟩
    · intro deep
      exact Grammar.whole_tooDeep limit spelled (by omega) deep

def negatedTwice : Expr :=
  .negative (.negative (.digit 1 default) default) default

theorem source_reparses_negatedTwice :
    ∃ tokens, Token.ofText negatedTwice.source = .ok tokens ∧
      (∃ again, Expr.ofTokens .ofCommand 3 tokens = .ok again ∧ again.same negatedTwice = true) ∧
      ∃ position, Expr.ofTokens .ofCommand 2 tokens = .error (.grammar (.tooDeep 2 position)) := by
  obtain ⟨tokens, read, outcomes⟩ := source_reparses negatedTwice
  have written : negatedTwice.text = "-(-1)" := rfl
  have found : tokens = [⟨.minus, .text "-", ⟨1, 1⟩⟩, ⟨.openParen, .text "(", ⟨1, 2⟩⟩, ⟨.minus, .text "-", ⟨1, 3⟩⟩,
      ⟨.digit, .int 1, ⟨1, 4⟩⟩, ⟨.closeParen, .text ")", ⟨1, 5⟩⟩] := by
    have known : ∀ c ∈ "-(-1)".toList, c ∈ Reader.alphabet := Reader.alphabet_of_all (by decide)
    rw [source_text, written, Reader.ofText_reading, Reader.reading_known .start known] at read
    rw [← Except.ok.inj read]
    decide
  have within : Expr.ofTokensWith (.ofStack .ofCommand) 3 tokens =
      .ok (.negative (.negative (.digit 1 ⟨1, 4⟩) ⟨1, 3⟩) ⟨1, 1⟩) := by
    rw [found]
    rfl
  have beyond : Expr.ofTokensWith (.ofStack .ofCommand) 2 tokens = .error (.grammar (.tooDeep 2 2)) := by
    rw [found]
    rfl
  have deep_enough := outcomes (.ofStack .ofCommand) 3 (by decide) (by simp [within])
  have too_low := outcomes (.ofStack .ofCommand) 2 (by decide) (by simp [beyond])
  exact ⟨tokens, read, deep_enough.1 (by decide), too_low.2 (by decide)⟩

end Expr

end DigitCalc
