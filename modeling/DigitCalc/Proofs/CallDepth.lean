import DigitCalc.Proofs.OpenGroups

/-! How many calls a limit needs. Six for every level that it lets open and six for the text around them are enough for
every list of tokens, so that running out of calls is a matter of the limit and never of the tokens; and no fewer are
enough, since as many groups as the limit admits, one inside the other, have that many calls active at one time. -/
namespace DigitCalc.Grammar

/-- The procedure is given up at the cursor with any number of calls below the one that is needed. -/
def RunsOutBelow (need : Nat) (procedure : Procedure) (cursor : Cursor) : Prop :=
  ∀ left < need, procedure (.calls left) cursor = .error .outOfCalls

section Needs
variable {limit : Int} {room need : Nat} {position : Int} {token : Token} {rest : List Token}

theorem procedure_uncalled (limit : Int) (level : Level) (room : Nat) (cursor : Cursor) :
    level.procedure limit room (.calls 0) cursor = .error .outOfCalls := by
  cases level with
  | atom =>
      rw [Level.procedure, atom_eq]
      rfl
  | unary =>
      rw [Level.procedure, unary_eq]
      rfl
  | term => rfl
  | expression => rfl

/-- A chain needs two calls more than its first operand. -/
theorem chain_runsOut {level inner : Level} {operator? : TokenKind → Option Operator}
    (layer : Layer level inner operator?) {cursor : Cursor}
    (operand : RunsOutBelow need (inner.procedure limit room) cursor) :
    RunsOutBelow (need + 2) (level.procedure limit room) cursor := by
  intro left few
  rcases left with _ | _ | left
  · exact procedure_uncalled limit level room cursor
  · rw [chain_eq layer]
    rfl
  · rw [chain_run_counted limit room left layer, operand left (by omega)]
    rfl

theorem unary_atom_counted (noSign : token.kind ≠ .minus) (left : Nat) :
    unary limit room (.calls (left + 1)) ⟨position, token :: rest⟩ =
      atom limit room (.calls left) ⟨position, token :: rest⟩ := by
  simp only [unary_eq, unaryWith, Budget.enter, bind, Except.bind, if_neg noSign]

theorem unary_runsOut (noSign : token.kind ≠ .minus)
    (operand : RunsOutBelow need (atom limit room) ⟨position, token :: rest⟩) :
    RunsOutBelow (need + 1) (unary limit room) ⟨position, token :: rest⟩ := by
  intro left few
  cases left with
  | zero => exact procedure_uncalled limit .unary room _
  | succ left =>
      rw [unary_atom_counted noSign]
      exact operand left (Nat.lt_of_succ_lt_succ few)

theorem group_runsOut (opens : token.kind = .openParen)
    (inside : RunsOutBelow need (expression limit room) ⟨position + 1, rest⟩) :
    RunsOutBelow (need + 1) (atom limit (room + 1)) ⟨position, token :: rest⟩ := by
  intro left few
  cases left with
  | zero => exact procedure_uncalled limit .atom _ _
  | succ left =>
      rw [atom_group_counted limit room left position token rest opens, inside left (Nat.lt_of_succ_lt_succ few)]
      rfl

end Needs

def nested : Nat → List Token
  | 0 => [⟨.digit, .int 0, ⟨0, 0⟩⟩]
  | groups + 1 => ⟨.openParen, .text "(", ⟨0, 0⟩⟩ :: (nested groups ++ [⟨.closeParen, .text ")", ⟨0, 0⟩⟩])

theorem nested_spelled (groups : Nat) : Spells .atom (nested groups) (.digit 0 ⟨0, 0⟩) groups := by
  induction groups with
  | zero => exact .digit rfl rfl
  | succ groups ih => exact .group rfl (.lone .expression (.lone .term (.plain ih))) rfl

/-- So many groups inside one another have all their calls active at the digit. -/
theorem nested_runsOut (limit : Int) (groups : Nat) {room : Nat} (fits : groups ≤ room) (position : Int)
    (rest : List Token) :
    RunsOutBelow (calls groups .expression) (expression limit room) ⟨position, nested groups ++ rest⟩ := by
  -- What is inside a group needs the calls of one group less, and each procedure around it one or two more.
  induction groups generalizing room position rest with
  | zero =>
      have atoms : RunsOutBelow 1 (atom limit room) ⟨position, nested 0 ++ rest⟩ := by
        intro left few
        rw [Nat.lt_one_iff.mp few]
        exact procedure_uncalled limit .atom room _
      exact chain_runsOut .expression (chain_runsOut .term (unary_runsOut (by decide) atoms))
  | succ groups ih =>
      obtain ⟨below, rfl⟩ : ∃ below, room = below + 1 := ⟨room - 1, by omega⟩
      have inside := ih (Nat.le_of_succ_le_succ fits) (position + 1) (⟨.closeParen, .text ")", ⟨0, 0⟩⟩ :: rest)
      have split : nested (groups + 1) ++ rest = ⟨.openParen, .text "(", ⟨0, 0⟩⟩ ::
          (nested groups ++ ⟨.closeParen, .text ")", ⟨0, 0⟩⟩ :: rest) := by
        simp [nested]
      rw [split]
      exact chain_runsOut .expression (chain_runsOut .term (unary_runsOut (by decide) (group_runsOut rfl inside)))

/-- With six calls for each level that may be open and six for the text around them, any list of tokens is answered as
if calls were not counted. With fewer, there is a list that is an expression within the limit and is given up. -/
theorem ofTokensWith_call_depth (limit : Int) (positive : 1 ≤ limit) :
    (∀ left : Nat, 6 * (limit + 1) ≤ left → ∀ tokens,
      Expr.ofTokensWith (.calls left) limit tokens = Expr.ofTokensWith .unbounded limit tokens) ∧
    (∀ tokens, Expr.ofTokensWith .unbounded limit tokens ≠ .error .outOfCalls) ∧
    ∃ tokens tree, Expr.ofTokensWith .unbounded limit tokens = .ok tree ∧
      ∀ left : Nat, left < 6 * (limit + 1) → Expr.ofTokensWith (.calls left) limit tokens = .error .outOfCalls := by
  refine ⟨?_, ?_, nested limit.toNat, .digit 0 ⟨0, 0⟩, ?_, ?_⟩
  · intro left enough tokens
    rw [ofTokensWith_eq _ positive, ofTokensWith_eq _ positive]
    rcases whole_keeps limit (.calls left) tokens with same | ⟨_, most, budget, few⟩
    · exact congrArg telling same
    · cases budget
      simp only [calls] at few
      omega
  · intro tokens
    rw [ofTokensWith_eq _ positive, ne_eq, telling_eq_outOfCalls]
    exact whole_answers limit tokens
  · rw [ofTokensWith_eq _ positive, telling_eq_ok]
    have spelled : Spells .expression (nested limit.toNat) (.digit 0 ⟨0, 0⟩) limit.toNat :=
      .lone .expression (.lone .term (.plain (nested_spelled limit.toNat)))
    exact (whole_ok_iff limit (by omega) _ _).mpr ⟨limit.toNat, spelled, by omega⟩
  · intro left few
    have runsOut := nested_runsOut limit limit.toNat (Nat.le_refl _) 0 [] left (by simp only [calls]; omega)
    rw [List.append_nil] at runsOut
    rw [ofTokensWith_eq _ positive, whole_eq, runsOut]
    rfl

theorem ofTokensWith_call_depth_one : (1 : Int) ≤ 1 ∧ 6 * ((1 : Int) + 1) ≤ (12 : Nat) ∧
    Expr.ofTokensWith (.calls 12) 1 negatedGroup = Expr.ofTokensWith .unbounded 1 negatedGroup ∧
    Expr.ofTokensWith (.calls 12) 1 negatedGroup = .error (.grammar (.tooDeep 1 1)) := by
  have enough : 6 * ((1 : Int) + 1) ≤ (12 : Nat) := by decide
  obtain ⟨kept, _, _⟩ := ofTokensWith_call_depth 1 (by decide)
  exact ⟨by decide, enough, kept 12 enough negatedGroup, rfl⟩

end DigitCalc.Grammar
