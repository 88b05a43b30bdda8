import DigitCalc.Proofs.Reading

/-! Calls that are active at one time. Counting them changes nothing but the point at which reading is given up: a
counted call answers as an uncounted one does, or it ran out of calls and had fewer than its level and its room
require. What is required grows with the room alone, by six calls for every level that may be opened, and not with the
tokens. -/
namespace DigitCalc.Grammar

/-- The calls that a level may have active inside the present one, itself among them. -/
def calls (room : Nat) : Level → Nat
  | .atom => 6 * room + 1
  | .unary => 6 * room + 2
  | .term => 6 * room + 4
  | .expression => 6 * room + 6

def Short (budget : Budget) (need : Nat) : Prop :=
  ∃ left, budget = .calls left ∧ left < need

/-- A procedure that gives up only for want of the calls it needs. -/
def Keeps (need : Nat) (procedure : Procedure) : Prop :=
  ∀ budget cursor, procedure budget cursor = procedure .unbounded cursor ∨
    (procedure budget cursor = .error .outOfCalls ∧ Short budget need)

theorem short_mono {budget : Budget} {need more : Nat} (short : Short budget need) (order : need ≤ more) :
    Short budget more := by
  obtain ⟨left, same, few⟩ := short
  exact ⟨left, same, Nat.lt_of_lt_of_le few order⟩

theorem keeps_mono {need more : Nat} {procedure : Procedure} (keeps : Keeps need procedure) (order : need ≤ more) :
    Keeps more procedure := by
  intro budget cursor
  rcases keeps budget cursor with same | ⟨out, short⟩
  · exact Or.inl same
  · exact Or.inr ⟨out, short_mono short order⟩

theorem enter_cases (budget : Budget) :
    (budget.enter = .error .outOfCalls ∧ ∀ need, Short budget (need + 1)) ∨
      ∃ inner, budget.enter = .ok inner ∧ ∀ need, Short inner need → Short budget (need + 1) := by
  cases budget with
  | unbounded =>
      refine Or.inr ⟨.unbounded, rfl, ?_⟩
      rintro need ⟨left, same, _⟩
      cases same
  | calls left =>
      cases left with
      | zero => exact Or.inl ⟨rfl, fun need => ⟨0, rfl, Nat.succ_pos need⟩⟩
      | succ left =>
          refine Or.inr ⟨.calls left, rfl, ?_⟩
          rintro need ⟨_, same, few⟩
          cases same
          exact ⟨left + 1, rfl, Nat.succ_lt_succ few⟩

theorem entering_keeps {need : Nat} {procedure work : Procedure}
    (enters : ∀ budget cursor, procedure budget cursor = budget.enter.bind fun inner => work inner cursor)
    (keeps : Keeps need work) : Keeps (need + 1) procedure := by
  intro budget cursor
  have uncounted : procedure .unbounded cursor = work .unbounded cursor := enters .unbounded cursor
  rw [enters, uncounted]
  rcases enter_cases budget with ⟨out, short⟩ | ⟨inner, entered, short⟩
  · rw [out]
    exact Or.inr ⟨rfl, short need⟩
  · rw [entered]
    rcases keeps inner cursor with same | ⟨out, few⟩
    · exact Or.inl same
    · exact Or.inr ⟨out, short need few⟩

/-- Work that goes on from a procedure's answer, and may call others in doing so. -/
theorem bind_keeps {need : Nat} {procedure : Procedure} {onward : Budget → Expr × Cursor → Outcome}
    (keeps : Keeps need procedure)
    (follows : ∀ budget found, onward budget found = onward .unbounded found ∨
      (onward budget found = .error .outOfCalls ∧ Short budget need)) :
    Keeps need fun budget cursor => (procedure budget cursor).bind (onward budget) := by
  intro budget cursor
  rcases keeps budget cursor with same | ⟨out, short⟩
  · simp only [same]
    rcases procedure .unbounded cursor with fault | found
    · exact Or.inl rfl
    · exact follows budget found
  · exact Or.inr ⟨by simp only [out, Except.bind], short⟩

theorem chainFrom_keeps {need : Nat} {operand : Procedure} (operator? : TokenKind → Option Operator)
    (keeps : Keeps need operand) (budget : Budget) (turns : List Token) (left : Expr) (cursor : Cursor) :
    chainFrom operator? operand budget turns left cursor = chainFrom operator? operand .unbounded turns left cursor ∨
      (chainFrom operator? operand budget turns left cursor = .error .outOfCalls ∧ Short budget need) := by
  induction turns generalizing left cursor with
  | nil => exact Or.inl rfl
  | cons _ turns ih =>
      obtain ⟨position, rest⟩ := cursor
      cases rest with
      | nil => exact Or.inl rfl
      | cons token rest =>
          cases known : operator? token.kind with
          | none => exact Or.inl (by simp only [chainFrom, known])
          | some operator =>
              simp only [chainFrom, known, Cursor.past]
              rcases keeps budget ⟨position + 1, rest⟩ with same | ⟨out, short⟩
              · rw [same]
                rcases operand .unbounded ⟨position + 1, rest⟩ with fault | ⟨right, next⟩
                · exact Or.inl rfl
                · exact ih (.binary operator left right token.place) next
              · rw [out]
                exact Or.inr ⟨rfl, short⟩

theorem chain_keeps {need : Nat} {operand : Procedure} (operator? : TokenKind → Option Operator)
    (keeps : Keeps need operand) : Keeps (need + 1) (chain operator? operand) :=
  entering_keeps (fun _ _ => rfl)
    (bind_keeps keeps fun budget found => chainFrom_keeps operator? keeps budget found.2.rest found.1 found.2)

theorem within_keeps {need : Nat} {inner : Procedure} (keeps : Keeps need inner) : Keeps (need + 1) (within inner) :=
  entering_keeps (fun _ _ => rfl) keeps

theorem unaryWith_keeps {need : Nat} {atom : Procedure} {deeper : Option Procedure} (limit : Int)
    (keeps : Keeps need atom) (below : ∀ procedure ∈ deeper, Keeps need procedure) :
    Keeps (need + 1) (unaryWith limit atom deeper) := by
  refine entering_keeps (fun _ _ => rfl) ?_
  rintro budget ⟨position, rest⟩
  cases rest with
  | nil => exact Or.inl rfl
  | cons token rest =>
      by_cases minus : token.kind = .minus
      · simp only [if_pos minus]
        cases deeper with
        | none => exact Or.inl rfl
        | some procedure =>
            let negated : Budget → Expr × Cursor → Outcome :=
              fun _ found => .ok (.negative found.1 token.place, found.2)
            have kept := @bind_keeps need procedure negated (below procedure rfl) fun _ _ => Or.inl rfl
            exact kept budget ⟨position + 1, rest⟩
      · simp only [if_neg minus]
        exact keeps budget ⟨position, token :: rest⟩

theorem atomWith_keeps {need : Nat} {deeper : Option Procedure} (limit : Int)
    (below : ∀ procedure ∈ deeper, Keeps need procedure) : Keeps (need + 1) (atomWith limit deeper) := by
  refine entering_keeps (fun _ _ => rfl) ?_
  rintro budget ⟨position, rest⟩
  cases rest with
  | nil => exact Or.inl rfl
  | cons token rest =>
      cases kind : token.kind with
      | openParen =>
          simp only [kind]
          cases deeper with
          | none => exact Or.inl rfl
          | some procedure =>
              let closed : Budget → Expr × Cursor → Outcome := fun _ found => close found.1 found.2
              have kept := @bind_keeps need procedure closed (below procedure rfl) fun _ _ => Or.inl rfl
              exact kept budget ⟨position + 1, rest⟩
      | _ =>
          simp only [kind]
          exact Or.inl trivial

theorem procedure_keeps (limit : Int) (level : Level) (room : Nat) :
    Keeps (calls room level) (level.procedure limit room) := by
  -- From an atom to an atom in a group inside it there are six calls, which is what one level of room adds.
  induction level, room using procedures_induction with
  | atom room inside =>
      rw [Level.procedure, atom_eq]
      refine atomWith_keeps limit (deeper?_all ?_)
      rintro less rfl
      exact keeps_mono (inside less rfl) (by simp only [calls]; omega)
  | unary room atoms inside =>
      rw [Level.procedure, unary_eq]
      refine unaryWith_keeps limit atoms (deeper?_all ?_)
      rintro less rfl
      exact keeps_mono (inside less rfl) (by simp only [calls]; omega)
  | chain level inner operator? layer room operands =>
      rw [chain_eq layer]
      have two := within_keeps (chain_keeps operator? operands)
      cases layer <;> exact two

end DigitCalc.Grammar
