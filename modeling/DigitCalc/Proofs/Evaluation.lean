import DigitCalc.Failure

/-! The walk over two stacks gives an expression the value that it has by recursion on its parts, left before right,
and fails as that recursion fails. What the nodes on the stack still mean for the values found so far is told by
`meaning`, which no turn of the walk changes; that no node lacks an operand is told by `Supplied`, which every turn
keeps. -/
namespace DigitCalc

namespace Expr

/-- The value by recursion: operands first, the left one before the right one, then the node. -/
def value (hasRule : Kind → Bool) : Expr → Except EvalFault Int
  | .digit number place => if hasRule .digit then .ok number else .error (.noRule .digit place)
  | .negative operand place => do
      let x ← operand.value hasRule
      if hasRule .negative then .ok (-x) else .error (.noRule .negative place)
  | .binary operator left right place => do
      let x ← left.value hasRule
      let y ← right.value hasRule
      if hasRule (.binary operator) then
        match operator with
        | .sum => .ok (x + y)
        | .diff => .ok (x - y)
        | .prod => .ok (x * y)
        | .div => if y = 0 then .error (.divisionByZero place) else .ok (x.tdiv y)
      else .error (.noRule (.binary operator) place)

theorem value_binary (hasRule : Kind → Bool) (operator : Operator) (left right : Expr) (place : Place) :
    (binary operator left right place).value hasRule = (left.value hasRule).bind fun x =>
      (right.value hasRule).bind fun y =>
        if hasRule (.binary operator) then operator.apply place x y else .error (.noRule (.binary operator) place) := by
  cases operator <;> rfl

theorem applyTo_digit (hasRule : Kind → Bool) (number : Fin 10) (place : Place) (values : List Int) :
    (digit number place).applyTo hasRule values =
      if hasRule .digit then .ok ((number : Int) :: values) else .error (.noRule .digit place) :=
  rfl

theorem applyTo_negative (hasRule : Kind → Bool) (operand : Expr) (place : Place) (x : Int) (values : List Int) :
    (negative operand place).applyTo hasRule (x :: values) =
      if hasRule .negative then .ok (-x :: values) else .error (.noRule .negative place) :=
  rfl

theorem applyTo_binary (hasRule : Kind → Bool) (operator : Operator) (left right : Expr) (place : Place) (x y : Int)
    (values : List Int) : (binary operator left right place).applyTo hasRule (y :: x :: values) =
      if hasRule (.binary operator) then (operator.apply place x y).map (· :: values)
      else .error (.noRule (.binary operator) place) :=
  rfl

def postorder : Expr → List Expr
  | .digit number place => [.digit number place]
  | .negative operand place => operand.postorder ++ [.negative operand place]
  | .binary operator left right place =>
      left.postorder ++ right.postorder ++ [.binary operator left right place]

/-- Why a node cannot be applied: it has no rule, or it divides by an operand whose value is zero. -/
def refusal? (hasRule : Kind → Bool) (node : Expr) : Option EvalFault :=
  if hasRule node.kind then
    match node with
    | .binary .div _ right place =>
        match right.value hasRule with
        | .ok 0 => some (.divisionByZero place)
        | _ => none
    | _ => none
  else some (.noRule node.kind node.place)

end Expr

/-- The remainder is smaller than the divisor, and it is zero or has the sign of the dividend. -/
def Truncates (left right quotient : Int) : Prop :=
  (left - quotient * right).natAbs < right.natAbs ∧
    (left - quotient * right = 0 ∨ (left - quotient * right).sign = left.sign)

theorem truncates_iff (left right : Int) (nonzero : right ≠ 0) (quotient : Int) :
    Truncates left right quotient ↔ quotient = left.tdiv right := by
  constructor
  · rintro ⟨small, sign⟩
    have whole : left - quotient * right + right * quotient = left := by
      rw [Int.mul_comm]
      omega
    -- The sign of the dividend tells on which side of zero the remainder lies, and the range fixes the quotient.
    rcases Int.le_total 0 left with natural | negative
    · have range : 0 ≤ left - quotient * right := by
        rcases sign with zero | same
        · omega
        · exact Int.sign_nonneg_iff.mp (same ▸ Int.sign_nonneg_iff.mpr natural)
      exact ((Int.tdiv_tmod_unique natural nonzero).mpr ⟨whole, range, by omega⟩).1.symm
    · have range : left - quotient * right ≤ 0 := by
        rcases sign with zero | same
        · omega
        · exact Int.sign_nonpos_iff.mp (same ▸ Int.sign_nonpos_iff.mpr negative)
      exact ((Int.tdiv_tmod_unique' negative nonzero).mpr ⟨whole, by omega, range⟩).1.symm
  · rintro rfl
    have remainder : left - left.tdiv right * right = left.tmod right := by
      have whole := Int.tmod_add_tdiv_mul left right
      omega
    rw [Truncates, remainder]
    constructor
    · rw [Int.natAbs_tmod]
      exact Nat.mod_lt _ (Int.natAbs_pos.mpr nonzero)
    · by_cases divides : right ∣ left
      · exact Or.inl (Int.tmod_eq_zero_of_dvd divides)
      · exact Or.inr (by rw [Int.sign_tmod, if_neg divides])

namespace Walk
variable {hasRule : Kind → Bool}

/-- What is left to do with the nodes of the stack, told by recursion on each of them. -/
def meaning (hasRule : Kind → Bool) : List Pending → List Int → Except EvalFault (List Int)
  | [], values => .ok values
  | ⟨expr, false⟩ :: later, values => do
      let value ← expr.value hasRule
      meaning hasRule later (value :: values)
  | ⟨expr, true⟩ :: later, values => do
      let values ← expr.applyTo hasRule values
      meaning hasRule later values

theorem meaning_expand (expr : Expr) (later : List Pending) (values : List Int) :
    meaning hasRule (expr.children.map (⟨·, false⟩) ++ ⟨expr, true⟩ :: later) values =
      meaning hasRule (⟨expr, false⟩ :: later) values := by
  -- An operand that fails hides whatever comes after it, on either side.
  cases expr with
  | digit number place =>
      change (Expr.applyTo hasRule (.digit number place) values).bind _ = _
      rw [Expr.applyTo_digit, meaning, Expr.value]
      split <;> rfl
  | negative operand place =>
      change (operand.value hasRule).bind _ = (Expr.value hasRule (.negative operand place)).bind _
      rw [Expr.value]
      cases operand.value hasRule with
      | error fault => rfl
      | ok x =>
          change (Expr.applyTo hasRule (.negative operand place) (x :: values)).bind _ = Except.bind (ite _ _ _) _
          rw [Expr.applyTo_negative]
          split <;> rfl
  | binary operator left right place =>
      change (left.value hasRule).bind _ = (Expr.value hasRule (.binary operator left right place)).bind _
      rw [Expr.value_binary]
      cases left.value hasRule with
      | error fault => rfl
      | ok x =>
          change (right.value hasRule).bind _ = ((right.value hasRule).bind _).bind _
          cases right.value hasRule with
          | error fault => rfl
          | ok y =>
              change (Expr.applyTo hasRule (.binary operator left right place) (y :: x :: values)).bind _ =
                Except.bind (ite _ _ _) _
              rw [Expr.applyTo_binary]
              split
              · cases operator.apply place x y <;> rfl
              · rfl

/-- One turn leaves unchanged what is left to do, and fails only where that fails. -/
theorem meaning_turn (values : List Int) (next : Pending) (later : List Pending) :
    meaning hasRule (next :: later) values =
      (turn hasRule values next later).bind fun walk => meaning hasRule walk.pending walk.values := by
  obtain ⟨expr, expanded⟩ := next
  cases expanded with
  | true =>
      simp only [meaning, turn, Bool.true_or, if_true, bind]
      cases expr.applyTo hasRule values <;> rfl
  | false =>
      rw [← meaning_expand, turn, Bool.false_or]
      split
      · next leaf =>
          rw [List.isEmpty_iff.mp leaf, List.map_nil, List.nil_append, meaning]
          cases expr.applyTo hasRule values <;> rfl
      · rfl

theorem run_meaning (values : List Int) (pending : List Pending) :
    run hasRule values pending = meaning hasRule pending values := by
  fun_induction run hasRule values pending with
  | case1 values => rfl
  | case2 values next later fault failed => rw [meaning_turn, failed, Except.bind]
  | case3 values next later walk moved ih => rw [meaning_turn, moved, Except.bind, ih]

theorem start_meaning (expr : Expr) :
    meaning hasRule (start expr).pending (start expr).values = (expr.value hasRule).map fun value => [value] := by
  simp only [start, meaning, bind]
  cases expr.value hasRule <;> rfl

inductive Reaches (hasRule : Kind → Bool) : Walk → Walk → Prop where
  | here (walk : Walk) : Reaches hasRule walk walk
  | turn {values : List Int} {next : Pending} {later : List Pending} {middle last : Walk}
      (moved : Walk.turn hasRule values next later = .ok middle) (onward : Reaches hasRule middle last) :
      Reaches hasRule ⟨values, next :: later⟩ last

/-- Where the turns lead: to no node and the values that are meant, or to a node whose turn fails as is meant. -/
theorem reaches_end (values : List Int) (pending : List Pending) :
    ∃ last, Reaches hasRule ⟨values, pending⟩ last ∧
      match meaning hasRule pending values with
      | .ok found => last = ⟨found, []⟩
      | .error fault => ∃ next later, last.pending = next :: later ∧
          turn hasRule last.values next later = .error fault := by
  fun_induction run hasRule values pending with
  | case1 values => exact ⟨_, .here _, rfl⟩
  | case2 values next later fault failed =>
      refine ⟨_, .here _, ?_⟩
      rw [meaning_turn, failed]
      exact ⟨next, later, rfl, failed⟩
  | case3 values next later walk moved ih =>
      obtain ⟨last, reached, ends⟩ := ih
      refine ⟨last, .turn moved reached, ?_⟩
      rw [meaning_turn, moved]
      exact ends

/-- With so many values on the stack, every node finds the values of its operands when its turn comes. -/
def Supplied : List Pending → Nat → Prop
  | [], _ => True
  | ⟨_, false⟩ :: later, count => Supplied later (count + 1)
  | ⟨expr, true⟩ :: later, count =>
      expr.children.length ≤ count ∧ Supplied later (count - expr.children.length + 1)

theorem supplied_operands (operands : List Expr) (later : List Pending) (count : Nat) :
    Supplied (operands.map (⟨·, false⟩) ++ later) count ↔ Supplied later (count + operands.length) := by
  induction operands generalizing count with
  | nil => rfl
  | cons operand rest ih =>
      rw [List.map_cons, List.cons_append, Supplied, ih, List.length_cons, Nat.add_right_comm, Nat.add_assoc]

theorem applied_length (expr : Expr) (values found : List Int) (applied : expr.applyTo hasRule values = .ok found) :
    found.length + expr.children.length = values.length + 1 := by
  unfold Expr.applyTo at applied
  split at applied
  · cases expr with
    | digit number place =>
        cases applied
        rfl
    | negative operand place =>
        cases values with
        | nil => cases applied
        | cons x values =>
            cases applied
            rfl
    | binary operator left right place =>
        rcases values with _ | ⟨y, _ | ⟨x, values⟩⟩
        · cases applied
        · cases applied
        · simp only [Expr.step, Step.apply] at applied
          cases outcome : operator.apply place x y with
          | error fault => simp [outcome, Except.map] at applied
          | ok value =>
              simp only [outcome, Except.map, Except.ok.injEq] at applied
              subst found
              rfl
  · cases applied

theorem turn_supplied (values : List Int) (next : Pending) (later : List Pending) (walk : Walk)
    (moved : turn hasRule values next later = .ok walk) (supplied : Supplied (next :: later) values.length) :
    Supplied walk.pending walk.values.length := by
  obtain ⟨expr, expanded⟩ := next
  unfold turn at moved
  split at moved
  -- A node that is applied takes a value for each operand and leaves one; a node that goes back takes none.
  · next last =>
      cases applied : expr.applyTo hasRule values with
      | error fault => simp [applied, Except.map] at moved
      | ok found =>
          have length := applied_length expr values found applied
          simp only [applied, Except.map, Except.ok.injEq] at moved
          subst walk
          cases expanded with
          | true =>
              have same : found.length = values.length - expr.children.length + 1 := by
                have enough := supplied.1
                omega
              exact same ▸ supplied.2
          | false =>
              have leaf : expr.children = [] := by simpa using last
              rw [leaf, List.length_nil, Nat.add_zero] at length
              change Supplied later found.length
              rw [length]
              exact supplied
  · next inner =>
      simp only [Except.ok.injEq] at moved
      subst walk
      have unmarked : expanded = false := by
        cases expanded with
        | true => simp at inner
        | false => rfl
      subst expanded
      refine (supplied_operands expr.children _ values.length).mpr ⟨Nat.le_add_left _ _, ?_⟩
      rwa [Nat.add_sub_cancel]

theorem reaches_supplied {walk last : Walk} (reached : Reaches hasRule walk last)
    (supplied : Supplied walk.pending walk.values.length) : Supplied last.pending last.values.length := by
  induction reached with
  | here => exact supplied
  | turn moved onward ih => exact ih (turn_supplied _ _ _ _ moved supplied)

end Walk

namespace Expr
variable {hasRule : Kind → Bool}

theorem evaluateWith_value (expr : Expr) : expr.evaluateWith hasRule = expr.value hasRule := by
  rw [evaluateWith, Walk.run_meaning, Walk.start_meaning]
  cases expr.value hasRule <;> rfl

theorem value_first (expr : Expr) :
    expr.postorder.findSome? (refusal? hasRule) =
      match expr.value hasRule with
      | .error fault => some fault
      | .ok _ => none := by
  induction expr with
  | digit number place =>
      by_cases rule : hasRule .digit <;> simp [postorder, refusal?, value, kind, Expr.place, rule]
  | negative operand place ih =>
      rw [postorder, List.findSome?_append, ih]
      cases found : operand.value hasRule with
      | error fault => simp [value, found, bind, Except.bind]
      | ok x =>
          by_cases rule : hasRule .negative <;>
            simp [refusal?, value, kind, Expr.place, rule, found, bind, Except.bind]
  | binary operator left right place ih_left ih_right =>
      rw [postorder, List.findSome?_append, List.findSome?_append, ih_left, ih_right]
      cases found_left : left.value hasRule with
      | error fault => simp [value, found_left, bind, Except.bind]
      | ok x =>
          cases found_right : right.value hasRule with
          | error fault => simp [value, found_left, found_right, bind, Except.bind]
          | ok y =>
              by_cases rule : hasRule (.binary operator)
              · cases operator with
                | div =>
                    by_cases zero : y = 0 <;>
                      simp [refusal?, value, kind, rule, found_left, found_right, zero, bind, Except.bind]
                | _ => simp [refusal?, value, kind, rule, found_left, found_right, bind, Except.bind]
              · simp [refusal?, value, kind, Expr.place, rule, found_left, found_right, bind, Except.bind]

example : evaluate (.binary .div (.negative (.digit 7 ⟨1, 2⟩) ⟨1, 1⟩) (.digit 2 ⟨1, 4⟩) ⟨1, 3⟩) = .ok (-3) := by
  rw [evaluate, evaluateWith_value]
  rfl

end Expr

end DigitCalc
