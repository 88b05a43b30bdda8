import DigitCalc.Proofs.Lookahead

/-! Reading under a higher limit. Two runs of a procedure that differ in the limit only make the same calls, as long as
the lower limit refuses nothing; so they end alike. Where it refuses a group or a minus sign, the higher limit opens
it, and whatever happens from there on happens behind that token, since a procedure only goes on. -/
namespace DigitCalc.Grammar

/-- An outcome that lies at a place or behind it, whether it is an expression that ends there or a fault. -/
def FromOn (position : Int) : Outcome → Prop
  | .ok (_, next) => position ≤ next.position
  | .error (.grammar fault) => position ≤ fault.position
  | .error _ => True

theorem fromOn_of {position : Int} {outcome : Outcome}
    (ends : ∀ tree next, outcome = .ok (tree, next) → position ≤ next.position)
    (faults : ∀ fault, outcome = .error (.grammar fault) → position ≤ fault.position) : FromOn position outcome := by
  rcases outcome with fault | ⟨tree, next⟩
  · cases fault with
    | grammar fault => exact faults fault rfl
    | _ => trivial
  · exact ends tree next rfl

theorem FromOn.earlier {position other : Int} {outcome : Outcome} (found : FromOn position outcome)
    (order : other ≤ position) : FromOn other outcome := by
  apply fromOn_of
  · rintro tree next rfl
    exact Int.le_trans order found
  · rintro fault rfl
    exact Int.le_trans order found

theorem FromOn.bind {position : Int} {outcome : Outcome} {onward : Expr × Cursor → Outcome}
    (found : FromOn position outcome) (goes : ∀ tree next, FromOn next.position (onward (tree, next))) :
    FromOn position (outcome.bind onward) := by
  rcases outcome with fault | ⟨tree, next⟩
  · exact found
  · exact (goes tree next).earlier found

def Advances (procedure : Procedure) : Prop :=
  ∀ budget cursor, FromOn cursor.position (procedure budget cursor)

theorem procedure_advances (limit : Int) (level : Level) (room : Nat) : Advances (level.procedure limit room) := by
  intro budget cursor
  obtain ⟨seen, later, _, leaves, _⟩ := procedure_decided limit level room budget cursor
  apply fromOn_of
  · intro tree next ended
    rw [ended] at leaves
    cases leaves
    exact Int.le_add_of_nonneg_right (Int.natCast_nonneg _)
  · intro fault refused
    rw [refused] at leaves
    have place : fault.position = cursor.position + seen.length := leaves
    omega

theorem chainFrom_advances (operator? : TokenKind → Option Operator) {operand : Procedure}
    (advances : Advances operand) (budget : Budget) (turns : List Token) (left : Expr) (cursor : Cursor) :
    FromOn cursor.position (chainFrom operator? operand budget turns left cursor) := by
  induction turns generalizing left cursor with
  | nil => exact Int.le_refl _
  | cons first turns ih =>
      obtain ⟨position, rest⟩ := cursor
      cases rest with
      | nil => exact Int.le_refl _
      | cons token rest =>
          cases known : operator? token.kind with
          | none =>
              simp only [chainFrom, known]
              exact Int.le_refl _
          | some operator =>
              rw [chainFrom_turn position token rest known]
              have behind : FromOn position (operand budget ⟨position + 1, rest⟩) :=
                (advances budget ⟨position + 1, rest⟩).earlier (Int.le_add_one (Int.le_refl position))
              exact behind.bind fun right next => ih _ next

theorem close_advances (inside : Expr) (cursor : Cursor) : FromOn cursor.position (close inside cursor) := by
  obtain ⟨position, rest⟩ := cursor
  cases rest with
  | nil => exact Int.le_refl _
  | cons token rest =>
      by_cases closes : token.kind = .closeParen
      · simp only [close, if_pos closes]
        exact Int.le_add_one (Int.le_refl _)
      · simp only [close, if_neg closes]
        exact Int.le_refl _

/-! Two runs side by side. -/

/-- The second outcome is the first one, or the first is a refusal for the nesting and the second lies behind the token
that was refused. -/
def Outlasts (limit : Int) (low high : Outcome) : Prop :=
  high = low ∨ ∃ position, low = .error (.grammar (.tooDeep limit position)) ∧ FromOn (position + 1) high

theorem Outlasts.refl (limit : Int) (outcome : Outcome) : Outlasts limit outcome outcome :=
  Or.inl rfl

theorem Outlasts.bind {limit : Int} {low high : Outcome} {onward further : Expr × Cursor → Outcome}
    (outlasts : Outlasts limit low high) (follows : ∀ found, Outlasts limit (onward found) (further found))
    (goes : ∀ tree next, FromOn next.position (further (tree, next))) :
    Outlasts limit (low.bind onward) (high.bind further) := by
  rcases outlasts with rfl | ⟨position, refused, behind⟩
  · rcases high with fault | found
    · exact .refl limit _
    · exact follows found
  · rw [refused]
    exact Or.inr ⟨position, rfl, behind.bind goes⟩

/-- The second procedure outlasts the first one wherever both are called. -/
def Exceeds (limit : Int) (low high : Procedure) : Prop :=
  ∀ budget cursor, Outlasts limit (low budget cursor) (high budget cursor)

inductive Wider (limit : Int) : Option Procedure → Option Procedure → Prop where
  | both {low high : Procedure} (exceeds : Exceeds limit low high) (advances : Advances high) :
      Wider limit (some low) (some high)
  | higher {high : Procedure} (advances : Advances high) : Wider limit none (some high)

section Procedures
variable {limit higher : Int}

theorem entering_exceeds {low high work further : Procedure}
    (enters : ∀ budget cursor, low budget cursor = budget.enter.bind fun inner => work inner cursor)
    (enters_too : ∀ budget cursor, high budget cursor = budget.enter.bind fun inner => further inner cursor)
    (exceeds : Exceeds limit work further) : Exceeds limit low high := by
  intro budget cursor
  rw [enters, enters_too]
  cases budget.enter with
  | error fault => exact .refl limit _
  | ok inner => exact exceeds inner cursor

theorem chainFrom_outlasts (operator? : TokenKind → Option Operator) {low high : Procedure}
    (exceeds : Exceeds limit low high) (advances : Advances high) (budget : Budget) (turns : List Token) (left : Expr)
    (cursor : Cursor) : Outlasts limit (chainFrom operator? low budget turns left cursor)
      (chainFrom operator? high budget turns left cursor) := by
  -- Up to the refused operand both chains have made the same turns, so they stand at one cursor with one tree.
  induction turns generalizing left cursor with
  | nil => exact .refl limit _
  | cons first turns ih =>
      obtain ⟨position, rest⟩ := cursor
      cases rest with
      | nil => exact .refl limit _
      | cons token rest =>
          cases known : operator? token.kind with
          | none =>
              simp only [chainFrom, known]
              exact .refl limit _
          | some operator =>
              rw [chainFrom_turn position token rest known, chainFrom_turn position token rest known]
              exact (exceeds budget ⟨position + 1, rest⟩).bind (fun found => ih _ found.2)
                (fun right next => chainFrom_advances operator? advances budget turns _ next)

theorem chain_exceeds (operator? : TokenKind → Option Operator) {low high : Procedure}
    (exceeds : Exceeds limit low high) (advances : Advances high) :
    Exceeds limit (chain operator? low) (chain operator? high) := by
  refine entering_exceeds (fun _ _ => rfl) (fun _ _ => rfl) ?_
  intro budget cursor
  exact (exceeds budget cursor).bind
    (fun found => chainFrom_outlasts operator? exceeds advances budget found.2.rest found.1 found.2)
    (fun first next => chainFrom_advances operator? advances budget next.rest first next)

theorem within_exceeds {low high : Procedure} (exceeds : Exceeds limit low high) :
    Exceeds limit (within low) (within high) :=
  entering_exceeds (fun _ _ => rfl) (fun _ _ => rfl) exceeds

theorem unaryWith_exceeds {atom other : Procedure} {deeper further : Option Procedure}
    (exceeds : Exceeds limit atom other) (wider : Wider limit deeper further) :
    Exceeds limit (unaryWith limit atom deeper) (unaryWith higher other further) := by
  refine entering_exceeds (fun _ _ => rfl) (fun _ _ => rfl) ?_
  rintro budget ⟨position, rest⟩
  cases rest with
  | nil => exact .refl limit _
  | cons token rest =>
      by_cases minus : token.kind = .minus
      · simp only [if_pos minus]
        cases wider with
        | both exceeds advances =>
            exact (exceeds budget ⟨position + 1, rest⟩).bind (fun found => .refl limit _) fun _ _ => Int.le_refl _
        | higher advances =>
            exact Or.inr ⟨position, rfl, (advances budget ⟨position + 1, rest⟩).bind fun _ _ => Int.le_refl _⟩
      · simp only [if_neg minus]
        exact exceeds budget ⟨position, token :: rest⟩

theorem atomWith_exceeds {deeper further : Option Procedure} (wider : Wider limit deeper further) :
    Exceeds limit (atomWith limit deeper) (atomWith higher further) := by
  refine entering_exceeds (fun _ _ => rfl) (fun _ _ => rfl) ?_
  rintro budget ⟨position, rest⟩
  cases rest with
  | nil => exact .refl limit _
  | cons token rest =>
      cases kind : token.kind with
      | openParen =>
          simp only [kind]
          cases wider with
          | both exceeds advances =>
              exact (exceeds budget ⟨position + 1, rest⟩).bind (fun found => .refl limit _) close_advances
          | higher advances =>
              exact Or.inr ⟨position, rfl, (advances budget ⟨position + 1, rest⟩).bind close_advances⟩
      | _ =>
          simp only [kind]
          exact .refl limit _

theorem deeper?_wider {low high : Nat → Procedure} (room more : Nat) (advances : ∀ room, Advances (high room))
    (below : ∀ less, room = less + 1 → Exceeds limit (low less) (high (less + more + 1))) :
    Wider limit (deeper? low room) (deeper? high (room + more + 1)) := by
  cases room with
  | zero => exact .higher (advances _)
  | succ less =>
      rw [Nat.add_right_comm less 1 more]
      exact .both (below less rfl) (advances _)

/-- With more room, a procedure goes further or ends alike. -/
theorem procedure_exceeds (limit higher : Int) (level : Level) (room more : Nat) :
    Exceeds limit (level.procedure limit room) (level.procedure higher (room + more + 1)) := by
  induction level, room using procedures_induction with
  | atom room inside =>
      rw [Level.procedure, Level.procedure, atom_eq, atom_eq]
      exact atomWith_exceeds (deeper?_wider room more (procedure_advances higher .expression) inside)
  | unary room atoms inside =>
      rw [Level.procedure, Level.procedure, unary_eq, unary_eq]
      exact unaryWith_exceeds atoms (deeper?_wider room more (procedure_advances higher .atom) inside)
  | chain level inner operator? layer room operands =>
      rw [chain_eq layer, chain_eq layer]
      exact within_exceeds (chain_exceeds operator? operands (procedure_advances higher inner _))

end Procedures

theorem reads_limit {limit : Int} {stage : Stage} {room : Nat} {cursor : Cursor} {outcome : Outcome}
    (reads : Reads limit stage room cursor outcome) {other position : Int}
    (refused : outcome = .error (.grammar (.tooDeep other position))) : other = limit := by
  induction reads with
  | groupTooDeep =>
      cases refused
      rfl
  | negationTooDeep =>
      cases refused
      rfl
  | insideFails opens inside ih => exact ih refused
  | plain noSign operand ih => exact ih refused
  | negatedFails minus operand ih => exact ih refused
  | firstFails layer first ih => exact ih refused
  | chain layer first more ih_first ih_more => exact ih_more refused
  | operandFails known operand ih => exact ih refused
  | turn known operand more ih_operand ih_more => exact ih_more refused
  | _ => cases refused

/-! The whole of a list of tokens. -/

theorem whole_limit {limit other position : Int} {tokens : List Token}
    (refused : whole limit .unbounded tokens = .error (.grammar (.tooDeep other position))) : other = limit := by
  obtain ⟨outcome, reads, answer⟩ := whole_call limit tokens
  rw [answer] at refused
  rcases outcome with fault | ⟨tree, place, rest⟩
  · cases refused
    exact reads_limit reads rfl
  · cases rest <;> cases refused

def Beyond (position : Int) : Except ParseFault Expr → Prop
  | .ok _ => True
  | .error (.grammar fault) => position < fault.position
  | .error _ => True

theorem finished_beyond {position : Int} {outcome : Outcome} (found : FromOn (position + 1) outcome) :
    Beyond position (finished outcome) := by
  rcases outcome with fault | ⟨tree, next, rest⟩
  · cases fault with
    | grammar fault => exact found
    | _ => trivial
  · cases rest with
    | nil => trivial
    | cons token rest => exact found

theorem whole_exceeds (budget : Budget) {limit higher : Int} (natural : 0 ≤ limit) (above : limit < higher)
    (tokens : List Token) : whole higher budget tokens = whole limit budget tokens ∨
      ∃ position, whole limit budget tokens = .error (.grammar (.tooDeep limit position)) ∧
        Beyond position (whole higher budget tokens) := by
  obtain ⟨more, room⟩ : ∃ more, higher.toNat = limit.toNat + more + 1 :=
    ⟨higher.toNat - limit.toNat - 1, by omega⟩
  have exceeds := procedure_exceeds limit higher .expression limit.toNat more budget ⟨0, tokens⟩
  rw [whole_eq, whole_eq, room]
  rcases exceeds with same | ⟨position, refused, behind⟩
  · exact Or.inl (congrArg finished same)
  · exact Or.inr ⟨position, congrArg finished refused, finished_beyond behind⟩

def unfinishedGroups : List Token :=
  [⟨.openParen, .text "(", ⟨1, 1⟩⟩, ⟨.openParen, .text "(", ⟨1, 2⟩⟩, ⟨.digit, .int 1, ⟨1, 3⟩⟩,
    ⟨.plus, .text "+", ⟨1, 4⟩⟩]

end DigitCalc.Grammar
