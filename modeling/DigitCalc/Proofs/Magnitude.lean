import DigitCalc.Proofs.Batches
import DigitCalc.Proofs.Conversation
import DigitCalc.Proofs.Traversal

/-! How large a value can be. No operator makes more of its operands than a product of nines does, so a value has a
bound that only counts the digits of its text. A text with few enough of them never meets the limit on the length of
a numeral, whatever stands between the digits. -/
namespace DigitCalc

namespace Expr

def leaves : Expr → Nat
  | digit _ _ => 1
  | negative operand _ => operand.leaves
  | binary _ left right _ => left.leaves + right.leaves

theorem leaves_pos (tree : Expr) : 0 < tree.leaves := by
  induction tree with
  | digit value place => exact Nat.one_pos
  | negative operand place ih => exact ih
  | binary operator left right place ih_left _ => exact Nat.add_pos_left ih_left _

theorem leaves_inorder (tree : Expr) : tree.inorder.countP (·.kind = .digit) = tree.leaves := by
  induction tree with
  | digit value place => rfl
  | negative operand place ih => rw [inorder, List.countP_cons_of_neg (by simp [kind]), ih, leaves]
  | binary operator left right place ih_left ih_right =>
      rw [inorder, List.countP_append, List.countP_cons_of_neg (by simp [kind]), ih_left, ih_right, leaves]

/-- The bounds of two operands, each of them at least two, multiply to a bound for all four operators. -/
theorem apply_bounded {operator : Operator} {place : Place} {x y n : Int} {most greatest : Nat}
    (applied : operator.apply place x y = .ok n) (left : x.natAbs ≤ most) (right : y.natAbs ≤ greatest)
    (some_left : 2 ≤ most) (some_right : 2 ≤ greatest) : n.natAbs ≤ most * greatest := by
  have added : x.natAbs + y.natAbs ≤ most * greatest :=
    Nat.le_trans (Nat.add_le_add left right) (Nat.add_le_mul some_left some_right)
  cases operator with
  | sum =>
      cases applied
      exact Nat.le_trans (Int.natAbs_add_le x y) added
  | diff =>
      cases applied
      exact Nat.le_trans (Int.natAbs_sub_le x y) added
  | prod =>
      cases applied
      rw [Int.natAbs_mul]
      exact Nat.mul_le_mul left right
  | div =>
      have quotient : x.tdiv y = n := by
        by_cases zero : y = 0
        · simp [Operator.apply, zero] at applied
        · simpa [Operator.apply, zero] using applied
      calc
        n.natAbs ≤ x.natAbs := quotient ▸ Int.natAbs_tdiv_le_natAbs x y
        _ ≤ x.natAbs + y.natAbs := Nat.le_add_right _ _
        _ ≤ most * greatest := added

theorem value_bounded {tree : Expr} {n : Int} (valued : tree.value (fun _ => true) = .ok n) :
    n.natAbs ≤ Nat.pow 9 tree.leaves := by
  have grown (operand : Expr) : 2 ≤ Nat.pow 9 operand.leaves :=
    Nat.le_trans (by decide) (Nat.pow_le_pow_right (by decide) operand.leaves_pos)
  induction tree generalizing n with
  | digit number place =>
      cases valued
      have single := number.isLt
      change number.val ≤ 9
      omega
  | negative operand place ih =>
      obtain ⟨x, inner, rfl⟩ := value_negative_ok valued
      rw [Int.natAbs_neg]
      exact ih inner
  | binary operator left right place ih_left ih_right =>
      obtain ⟨x, y, first, last, applied⟩ := value_binary_ok valued
      rw [leaves, Nat.pow_eq, Nat.pow_add]
      exact apply_bounded applied (ih_left first) (ih_right last) (grown left) (grown right)

theorem evaluate_bounded {tree : Expr} {n : Int} (valued : tree.evaluate = .ok n) :
    n.natAbs ≤ Nat.pow 9 tree.leaves := by
  rw [evaluate, evaluateWith_value] at valued
  exact value_bounded valued

end Expr

/-! The digits of a text are the digits of its tree. -/

namespace Reader

theorem lexeme?_digit_iff {c : Char} {kind : TokenKind} {value : Datum} (known : lexeme? c = some (kind, value)) :
    kind = .digit ↔ c.isDigit = true := by
  cases (lexeme?_iff c kind value).mp known with
  | digit value =>
      have digits : ∀ value : Fin 10, (Nat.digitChar value).isDigit = true := by decide
      simp [digits value]
  | _ => decide

theorem lexeme?_none {c : Char} (unknown : lexeme? c = none) : c.isDigit = false := by
  unfold lexeme? at unknown
  split at unknown
  · cases unknown
  · next foreign => simpa [Char.isDigit, Char.le_def] using foreign

theorem tokenAt?_digit (here : Coordinates) (c : Char) :
    (tokenAt? here c).toList.countP (·.kind = .digit) = [c].countP Char.isDigit := by
  unfold tokenAt?
  split
  · next blank =>
      have bare : blanks.all (!·.isDigit) = true := by decide
      have dark : c.isDigit = false := by
        simpa using List.all_eq_true.mp bare c (List.contains_iff_mem.mp blank)
      simp [dark]
  · cases known : lexeme? c with
    | none => simp [lexeme?_none known]
    | some lexeme =>
        obtain ⟨kind, value⟩ := lexeme
        simp [lexeme?_digit_iff known, List.countP_cons]

theorem tokensFrom_countP (here : Coordinates) (chars : List Char) :
    (tokensFrom here chars).countP (·.kind = .digit) = chars.countP Char.isDigit := by
  induction chars generalizing here with
  | nil => rfl
  | cons c rest ih =>
      rw [tokensFrom, List.countP_append, tokenAt?_digit, ih, ← List.countP_append]
      rfl

end Reader

namespace Grammar

theorem makes_digit_iff {token : Token} {node : Expr} (made : token.Makes node) :
    token.kind = .digit ↔ node.kind = .digit := by
  have role := made.role
  generalize token.kind = mark at role
  generalize node.kind = kind at role
  cases role <;> simp

theorem made_digits {tokens : List Token} {nodes : List Expr} (made : List.Forall₂ Token.Makes tokens nodes) :
    tokens.countP (·.kind = .digit) = nodes.countP (·.kind = .digit) := by
  induction made with
  | nil => rfl
  | cons first _ ih => simp [List.countP_cons, ih, makes_digit_iff first]

theorem marks_digits (tokens : List Token) :
    (marks tokens).countP (·.kind = .digit) = tokens.countP (·.kind = .digit) := by
  rw [marks, List.countP_filter]
  refine List.countP_congr fun token _ => ?_
  by_cases digit : token.kind = .digit <;> simp [digit, isParen]

theorem ofTokensWith_leaves {budget : Budget} {limit : Int} {tokens : List Token} {tree : Expr}
    (parsed : Expr.ofTokensWith budget limit tokens = .ok tree) :
    tree.leaves = tokens.countP (·.kind = .digit) := by
  obtain ⟨_, _, nesting, spelled, _⟩ := ofTokensWith_ok parsed
  rw [← tree.leaves_inorder, ← made_digits (spells_inorder spelled), marks_digits]

end Grammar

theorem power_nine_lt (n : Nat) : Nat.pow 9 (153 * n + 69) < Nat.pow 10 (146 * n + 66) := by
  rw [Nat.pow_eq, Nat.pow_eq, Nat.pow_add, Nat.pow_mul, Nat.pow_add 10, Nat.pow_mul 10]
  exact Nat.mul_lt_mul_of_le_of_lt (Nat.pow_le_pow_left (by decide) n) (by decide) (Nat.pow_pos (by decide))

theorem Expr.evaluate_lt {tree : Expr} {value : Int} (valued : tree.evaluate = .ok value) (n : Nat)
    (few : tree.leaves ≤ 153 * n + 69) : value.natAbs < Nat.pow 10 (146 * n + 66) :=
  calc
    value.natAbs ≤ Nat.pow 9 tree.leaves := evaluate_bounded valued
    _ ≤ Nat.pow 9 (153 * n + 69) := Nat.pow_le_pow_right (by decide) few
    _ < Nat.pow 10 (146 * n + 66) := power_nine_lt n

theorem Report.writable_of_digits {stack : Stack} {source : String} {limit : Int}
    (few : source.toList.countP Char.isDigit ≤ 4506) : Writable stack limit source := by
  intro value valued
  obtain ⟨tokens, tree, read, parsed, outcome⟩ := calculate_valued valued
  -- Exponents are written as multiples, so that no power is worked out.
  have leaves : tree.leaves ≤ 153 * 29 + 69 := by
    rw [Grammar.ofTokensWith_leaves parsed, (Reader.ofText_ok read).2, Reader.tokensFrom_countP]
    exact few
  have digits : 146 * 29 + 66 = Text.Numeral.mostDigits := rfl
  exact Text.Numeral.short_of_lt (Nat.le_of_eq digits) (Expr.evaluate_lt outcome 29 leaves)

section Endings
variable {stack : Stack} {source : String} {limit : Int}

theorem Session.evaluate_answers (positive : 1 ≤ limit) (low : limit ≤ stack.groups)
    (writable : Report.Writable stack limit source)
    (verbose : Bool) : (Session.evaluate stack verbose limit source).ending = .ok () := by
  rcases answered_or_unanswered positive verbose source with ⟨text, answer⟩ | ⟨failure, unanswered⟩
  · rw [answer.evaluates]
  · exact absurd unanswered (answerable_of_writable low writable failure)

theorem Report.run_ends (positive : 1 ≤ limit) (writable : Writable stack limit source) (display : Display) :
    ∃ hasValue, (Report.run stack display limit source).ending = .ok hasValue := by
  by_cases fits : Fits stack display limit source
  · obtain ⟨printed, _, ran⟩ := run_account positive fits writable
    exact ⟨_, congrArg Run.ending ran⟩
  · exact ⟨false, congrArg Run.ending (run_tall fits)⟩

theorem Batch.run_text_ends (positive : 1 ≤ limit) (writable : Report.Writable stack limit source) (display : Display)
    (files : Files) : ∃ status, (Batch.run stack display limit files (.text source)).ending = .ok status := by
  obtain ⟨hasValue, ended⟩ := Report.run_ends positive writable display
  have reported : Report.run stack display limit source =
      ⟨(Report.run stack display limit source).printed, .ok hasValue⟩ := by
    rw [← ended]
  exact ⟨_, congrArg Run.ending (run_counted rfl (reportAll_reported reported))⟩

end Endings

/-- A value is at most the product of as many nines as its expression has digits. So a text with no more than 4506 of
them never meets the limit on the length of a numeral: with a limit on the nesting that the stack can keep, each of the
three ways to have it calculated comes to its end. -/
theorem magnitude_bounded :
    (∀ tree value, Expr.evaluate tree = .ok value → value.natAbs ≤ Nat.pow 9 tree.leaves) ∧
    ∀ (stack : Stack) (source : String) (limit : Int), source.toList.countP Char.isDigit ≤ 4506 → 1 ≤ limit →
      limit ≤ stack.groups →
      (∀ verbose, (Session.evaluate stack verbose limit source).ending = .ok ()) ∧
      (∀ display, ∃ hasValue, (Report.run stack display limit source).ending = .ok hasValue) ∧
      ∀ display files, ∃ status, (Batch.run stack display limit files (.text source)).ending = .ok status := by
  refine ⟨fun tree value valued => Expr.evaluate_bounded valued, ?_⟩
  intro stack source limit few positive low
  have writable : Report.Writable stack limit source := Report.writable_of_digits few
  exact ⟨Session.evaluate_answers positive low writable, Report.run_ends positive writable,
    Batch.run_text_ends positive writable⟩

theorem magnitude_bounded_samples :
    (Expr.nines 1).evaluate = .ok 81 ∧ (81 : Int).natAbs ≤ Nat.pow 9 (Expr.nines 1).leaves ∧
    "2*3".toList.countP Char.isDigit ≤ 4506 ∧ (1 : Int) ≤ 100 ∧ (100 : Int) ≤ Stack.ofCommand.groups ∧
    (∀ verbose, (Session.evaluate .ofCommand verbose 100 "2*3").ending = .ok ()) ∧
    (∀ display, ∃ hasValue, (Report.run .ofCommand display 100 "2*3").ending = .ok hasValue) ∧
    ∀ display files, ∃ status, (Batch.run .ofCommand display 100 files (.text "2*3")).ending = .ok status := by
  have valued : (Expr.nines 1).evaluate = .ok 81 := Expr.nines_evaluate 1
  have few : "2*3".toList.countP Char.isDigit ≤ 4506 := by decide
  exact ⟨valued, magnitude_bounded.1 _ _ valued, few, by decide, by decide,
    magnitude_bounded.2 .ofCommand "2*3" 100 few (by decide) (by decide)⟩

end DigitCalc
