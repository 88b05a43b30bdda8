import DigitCalc.Proofs.Lookahead

/-! When the calls run out. Only an opening parenthesis asks for calls that were not there before: a stack that holds
so many groups inside one another, six calls for each and six for the text around them, is too small exactly when more
groups are open at one place among the tokens that are passed. Everything else is answered as if calls were not
counted. -/
namespace DigitCalc.Grammar

def afterToken (left : Nat) : TokenKind → Option Nat
  | .openParen => if left = 0 then none else some (left - 1)
  | .closeParen => some (left + 1)
  | _ => some left

/-- How many groups may still be opened after some tokens; nothing, if they open more than they may. -/
def groupsLeft (left : Nat) (kinds : List TokenKind) : Option Nat :=
  kinds.foldlM afterToken left

theorem groupsLeft_append (left : Nat) (first later : List TokenKind) :
    groupsLeft left (first ++ later) = (groupsLeft left first).bind (groupsLeft · later) :=
  List.foldlM_append

theorem groupsLeft_cons (left : Nat) (kind : TokenKind) (rest : List TokenKind) :
    groupsLeft left (kind :: rest) = (afterToken left kind).bind (groupsLeft · rest) :=
  List.foldlM_cons

theorem groupsLeft_plain {kind : TokenKind} (plain : isParen kind = false) (left : Nat) (rest : List TokenKind) :
    groupsLeft left (kind :: rest) = groupsLeft left rest := by
  rw [groupsLeft_cons]
  cases kind with
  | openParen => cases plain
  | closeParen => cases plain
  | _ => rfl

theorem sign_plain {level inner : Level} {operator? : TokenKind → Option Operator} {kind : TokenKind}
    {operator : Operator} (layer : Layer level inner operator?) (known : operator? kind = some operator) :
    isParen kind = false := by
  cases layer <;> cases kind <;> cases known <;> rfl

/-- Tokens that give back every group they open, if they may open as many as they do. -/
def Balanced (tokens : List Token) : Prop :=
  ∀ left, groupsLeft left (tokens.map Token.kind) = some left ∨ groupsLeft left (tokens.map Token.kind) = none

theorem balanced_nil : Balanced [] :=
  fun _ => Or.inl rfl

theorem balanced_append {first later : List Token} (balanced : Balanced first) (rest : Balanced later) :
    Balanced (first ++ later) := by
  intro left
  rw [List.map_append, groupsLeft_append]
  rcases balanced left with whole | spent
  · rw [whole]
    exact rest left
  · rw [spent]
    exact Or.inr rfl

theorem balanced_plain {token : Token} {rest : List Token} (plain : isParen token.kind = false)
    (balanced : Balanced rest) : Balanced (token :: rest) := by
  intro left
  rw [List.map_cons, groupsLeft_plain plain]
  exact balanced left

theorem balanced_group {opening closing : Token} {tokens : List Token} (opens : opening.kind = .openParen)
    (closes : closing.kind = .closeParen) (balanced : Balanced tokens) :
    Balanced (opening :: (tokens ++ [closing])) := by
  intro left
  rw [List.map_cons, List.map_append, groupsLeft_cons, opens]
  cases left with
  | zero => exact Or.inr rfl
  | succ left =>
      change groupsLeft left _ = _ ∨ groupsLeft left _ = _
      rw [groupsLeft_append, List.map_singleton, closes]
      rcases balanced left with whole | spent
      · rw [whole]
        exact Or.inl rfl
      · rw [spent]
        exact Or.inr rfl

theorem turns_balanced {operator? : TokenKind → Option Operator} {level inner : Level}
    (layer : Layer level inner operator?) (turns : List Turn)
    (signs : ∀ turn ∈ turns, operator? turn.sign.kind = some turn.operator)
    (operands : ∀ turn ∈ turns, Balanced turn.tokens) : Balanced (Turn.spelling turns) := by
  induction turns with
  | nil => exact balanced_nil
  | cons turn rest ih =>
      rw [Turn.spelling_cons]
      have later := ih (fun turn member => signs turn (List.mem_cons_of_mem _ member))
        (fun turn member => operands turn (List.mem_cons_of_mem _ member))
      exact balanced_plain (sign_plain layer (signs turn List.mem_cons_self))
        (balanced_append (operands turn List.mem_cons_self) later)

theorem spells_balanced {level : Level} {tokens : List Token} {tree : Expr} {nesting : Nat}
    (spelled : Spells level tokens tree nesting) : Balanced tokens := by
  induction spelled with
  | digit kind carried => exact balanced_plain (by simp [isParen, kind]) balanced_nil
  | group opens inside closes ih => exact balanced_group opens closes ih
  | plain operand ih => exact ih
  | negated minus operand ih => exact balanced_plain (by simp [isParen, minus]) ih
  | chain layer first signs operands ih_first ih_operands =>
      exact balanced_append ih_first (turns_balanced layer _ signs ih_operands)

/-! The procedures while calls are counted. -/

section Equations
variable (limit : Int) (room left : Nat) (position : Int) (token : Token) (rest : List Token)

theorem atom_alone (cursor : Cursor) (alone : room = 0 ∨ ∀ token ∈ cursor.rest.head?, token.kind ≠ .openParen) :
    atom limit room (.calls (left + 1)) cursor = atom limit room .unbounded cursor := by
  obtain ⟨position, rest⟩ := cursor
  rw [atom_eq]
  cases rest with
  | nil => rfl
  | cons token rest =>
      cases kind : token.kind with
      | openParen =>
          have none : room = 0 := by simpa [kind] using alone
          subst room
          simp only [atomWith, Budget.enter, bind, Except.bind, kind, deeper?]
      | _ => simp only [atomWith, Budget.enter, bind, Except.bind, kind]

theorem atom_digit_counted (kind : token.kind = .digit) :
    atom limit room (.calls (left + 1)) ⟨position, token :: rest⟩ =
      match token.value.digit? with
      | none => .error (.notADigit token.value)
      | some value => .ok (.digit value token.place, ⟨position + 1, rest⟩) := by
  have alone : ∀ first ∈ (token :: rest).head?, first.kind ≠ .openParen := by simp [kind]
  exact (atom_alone limit room left _ (Or.inr alone)).trans (atom_digit limit room position token rest kind)

theorem atom_group_counted (opens : token.kind = .openParen) :
    atom limit (room + 1) (.calls (left + 1)) ⟨position, token :: rest⟩ =
      (expression limit room (.calls left) ⟨position + 1, rest⟩).bind fun found => close found.1 found.2 := by
  simp only [atom_eq, atomWith, Budget.enter, bind, Except.bind, opens, deeper?, Cursor.past]

theorem unary_plain_counted (cursor : Cursor) (noSign : ∀ token ∈ cursor.rest.head?, token.kind ≠ .minus) :
    unary limit room (.calls (left + 2)) cursor = atom limit room (.calls (left + 1)) cursor := by
  obtain ⟨position, rest⟩ := cursor
  cases rest with
  | nil =>
      rw [unary_eq, atom_alone limit room left ⟨position, []⟩ (Or.inr (by simp)), atom_missing]
      rfl
  | cons token rest =>
      have other : token.kind ≠ .minus := by simpa using noSign
      simp only [unary_eq, unaryWith, Budget.enter, bind, Except.bind, if_neg other]

theorem unary_tooDeep_counted (minus : token.kind = .minus) :
    unary limit 0 (.calls (left + 1)) ⟨position, token :: rest⟩ = .error (.grammar (.tooDeep limit position)) := by
  simp only [unary_eq, unaryWith, Budget.enter, bind, Except.bind, if_pos minus, deeper?]

theorem unary_negated_counted (minus : token.kind = .minus) :
    unary limit (room + 1) (.calls (left + 1)) ⟨position, token :: rest⟩ =
      (atom limit room (.calls left) ⟨position + 1, rest⟩).bind fun found =>
        .ok (.negative found.1 token.place, found.2) := by
  simp only [unary_eq, unaryWith, Budget.enter, bind, Except.bind, if_pos minus, deeper?, Cursor.past]
  rfl

theorem chain_run_counted {level inner : Level} {operator? : TokenKind → Option Operator}
    (layer : Layer level inner operator?) (cursor : Cursor) :
    level.procedure limit room (.calls (left + 2)) cursor =
      (inner.procedure limit room (.calls left) cursor).bind fun found =>
        chainFrom operator? (inner.procedure limit room) (.calls left) found.2.rest found.1 found.2 := by
  rw [chain_eq layer]
  rfl

end Equations

theorem calls_layer {level inner : Level} {operator? : TokenKind → Option Operator}
    (layer : Layer level inner operator?) (groups : Nat) : calls groups level = calls groups inner + 2 := by
  cases layer <;> rfl

/-! What the calls allow. -/

/-- What is answered where no more than so many groups may be open at one time among the tokens that are passed. -/
def capped {α : Type} (groups : Nat) (seen : List Token) (outcome : Except ParseFault α) : Except ParseFault α :=
  if (groupsLeft groups (seen.map Token.kind)).isSome then outcome else .error .outOfCalls

theorem capped_nil {α : Type} (groups : Nat) (outcome : Except ParseFault α) : capped groups [] outcome = outcome :=
  rfl

theorem capped_plain {α : Type} {token : Token} (plain : isParen token.kind = false) (groups : Nat) (seen : List Token)
    (outcome : Except ParseFault α) : capped groups (token :: seen) outcome = capped groups seen outcome := by
  rw [capped, List.map_cons, groupsLeft_plain plain, capped]

theorem capped_opens {α : Type} {token : Token} (opens : token.kind = .openParen) (groups : Nat) (seen : List Token)
    (outcome : Except ParseFault α) : capped (groups + 1) (token :: seen) outcome = capped groups seen outcome := by
  rw [capped, List.map_cons, groupsLeft_cons, opens]
  rfl

theorem capped_opens_none {α : Type} {token : Token} (opens : token.kind = .openParen) (seen : List Token)
    (outcome : Except ParseFault α) : capped 0 (token :: seen) outcome = .error .outOfCalls := by
  rw [capped, List.map_cons, groupsLeft_cons, opens]
  rfl

theorem capped_closes {α : Type} {token : Token} (closes : token.kind = .closeParen) (groups : Nat)
    (seen : List Token) (outcome : Except ParseFault α) :
    capped groups (seen ++ [token]) outcome = capped groups seen outcome := by
  rw [capped, List.map_append, List.map_singleton, groupsLeft_append, closes, capped]
  cases groupsLeft groups (seen.map Token.kind) <;> rfl

theorem capped_bind {α β : Type} (groups : Nat) (seen : List Token) (outcome : Except ParseFault α)
    (onward : α → Except ParseFault β) :
    (capped groups seen outcome).bind onward = capped groups seen (outcome.bind onward) := by
  unfold capped
  split <;> rfl

/-- Behind tokens that close their groups, the work that goes on has as many groups to open as they had. -/
theorem capped_append {α : Type} {first : List Token} (balanced : Balanced first) (groups : Nat) (later : List Token)
    (outcome : Except ParseFault α) :
    capped groups (first ++ later) outcome = capped groups first (capped groups later outcome) := by
  unfold capped
  rw [List.map_append, groupsLeft_append]
  rcases balanced groups with whole | spent
  · rw [whole]
    rfl
  · rw [spent]
    rfl

def CountedResults (limit : Int) (room groups : Nat) (cursor : Cursor) (outcome : Outcome) : Stage → Prop
  | .level level => level.procedure limit room (.calls (calls groups level)) cursor = outcome
  | .onward inner operator? left => ∀ turns : List Token, cursor.rest.length ≤ turns.length →
      chainFrom operator? (inner.procedure limit room) (.calls (calls groups inner)) turns left cursor = outcome

/-- The operators of a chain that is under way are those of its level. -/
def Proper : Stage → Prop
  | .level _ => True
  | .onward inner operator? _ => ∃ level, Layer level inner operator?

theorem passed_balanced {limit : Int} {level : Level} {room : Nat} {position : Int} {seen later : List Token}
    {tree : Expr} {next : Cursor} (reads : Reads limit (.level level) room ⟨position, seen ++ later⟩ (.ok (tree, next)))
    (left : next.rest = later) : Balanced seen := by
  obtain ⟨tokens, nesting, spelled, fits, consumed, moved⟩ := reads_sound reads
  rw [left] at consumed
  have same : seen = tokens := List.append_cancel_right consumed
  exact same ▸ spells_balanced spelled

theorem group_counted {limit : Int} {room : Nat} {position : Int} {token : Token} {rest seen : List Token}
    {outcome : Outcome} (opens : token.kind = .openParen)
    (inside : ∀ groups, CountedResults limit room groups ⟨position + 1, rest⟩ (capped groups seen outcome)
      (.level .expression)) (groups : Nat) :
    CountedResults limit (room + 1) groups ⟨position, token :: rest⟩
      (capped groups (token :: seen) (outcome.bind fun found => close found.1 found.2)) (.level .atom) := by
  cases groups with
  | zero => exact (atom_group_counted limit room 0 position token rest opens).trans (capped_opens_none opens _ _).symm
  | succ groups =>
      have held : expression limit room (.calls (calls groups .expression)) ⟨position + 1, rest⟩ =
          capped groups seen outcome := inside groups
      refine (atom_group_counted limit room (calls groups .expression) position token rest opens).trans ?_
      rw [held, capped_bind, capped_opens opens]

theorem negation_counted {limit : Int} {room : Nat} {position : Int} {token : Token} {rest seen : List Token}
    {outcome : Outcome} (minus : token.kind = .minus)
    (operand : ∀ groups, CountedResults limit room groups ⟨position + 1, rest⟩ (capped groups seen outcome)
      (.level .atom)) (groups : Nat) :
    CountedResults limit (room + 1) groups ⟨position, token :: rest⟩
      (capped groups (token :: seen) (outcome.bind fun found => .ok (.negative found.1 token.place, found.2)))
      (.level .unary) := by
  have held : atom limit room (.calls (calls groups .atom)) ⟨position + 1, rest⟩ = capped groups seen outcome :=
    operand groups
  refine (unary_negated_counted limit room (calls groups .atom) position token rest minus).trans ?_
  rw [held, capped_bind, capped_plain (by simp [isParen, minus])]

theorem chain_counted {limit : Int} {room groups : Nat} {level inner : Level}
    {operator? : TokenKind → Option Operator} (layer : Layer level inner operator?) {cursor : Cursor}
    {seen : List Token} {outcome : Outcome}
    (first : CountedResults limit room groups cursor (capped groups seen outcome) (.level inner)) :
    level.procedure limit room (.calls (calls groups level)) cursor =
      capped groups seen (outcome.bind fun found =>
        chainFrom operator? (inner.procedure limit room) (.calls (calls groups inner)) found.2.rest found.1
          found.2) := by
  have read : inner.procedure limit room (.calls (calls groups inner)) cursor = capped groups seen outcome := first
  rw [calls_layer layer, chain_run_counted limit room _ layer, read, capped_bind]

theorem turn_counted {limit : Int} {room groups : Nat} {level inner : Level} {operator? : TokenKind → Option Operator}
    {position : Int} {token : Token} {rest seen : List Token} {operator : Operator} {outcome : Outcome}
    (layer : Layer level inner operator?) (known : operator? token.kind = some operator)
    (operand : CountedResults limit room groups ⟨position + 1, rest⟩ (capped groups seen outcome) (.level inner))
    (spare : Token) (turns : List Token) (left : Expr) :
    chainFrom operator? (inner.procedure limit room) (.calls (calls groups inner)) (spare :: turns) left
        ⟨position, token :: rest⟩ =
      capped groups (token :: seen) (outcome.bind fun found =>
        chainFrom operator? (inner.procedure limit room) (.calls (calls groups inner)) turns
          (.binary operator left found.1 token.place) found.2) := by
  have read : inner.procedure limit room (.calls (calls groups inner)) ⟨position + 1, rest⟩ =
      capped groups seen outcome := operand
  rw [chainFrom_turn position token rest known, read, capped_bind, capped_plain (sign_plain layer known)]

/-- The calls for so many groups are enough for a call exactly where no more groups are open among the tokens that it
passes. -/
def Counts (limit : Int) (stage : Stage) (room : Nat) (cursor : Cursor) (outcome : Outcome) : Prop :=
  ∃ seen later, cursor.rest = seen ++ later ∧ Leaves cursor.position seen later outcome ∧
    ∀ groups, CountedResults limit room groups cursor (capped groups seen outcome) stage

section Counts
variable {limit position last : Int} {room : Nat} {token closing : Token} {rest later : List Token} {tree : Expr}
  {fault : ParseFault}

theorem counts_here {stage : Stage} {cursor : Cursor} {outcome : Outcome}
    (leaves : Leaves cursor.position [] cursor.rest outcome)
    (same : ∀ groups, CountedResults limit room groups cursor outcome stage) :
    Counts limit stage room cursor outcome :=
  ⟨[], cursor.rest, rfl, leaves, same⟩

theorem counts_refused {cursor : Cursor} {refusal : SyntaxFault} (here : refusal.position = cursor.position)
    (alone : room = 0 ∨ ∀ token ∈ cursor.rest.head?, token.kind ≠ .openParen)
    (refused : atom limit room .unbounded cursor = .error (.grammar refusal)) :
    Counts limit (.level .atom) room cursor (.error (.grammar refusal)) := by
  refine counts_here (here.trans (Int.add_zero _).symm) ?_
  intro groups
  exact (atom_alone limit room _ cursor alone).trans refused

theorem counts_digit {value : Fin 10} (kind : token.kind = .digit) (carried : token.value.digit? = some value) :
    Counts limit (.level .atom) room ⟨position, token :: rest⟩
      (.ok (.digit value token.place, ⟨position + 1, rest⟩)) := by
  refine ⟨[token], rest, rfl, rfl, ?_⟩
  intro groups
  rw [capped_plain (by simp [isParen, kind]), capped_nil]
  refine (atom_digit_counted limit room _ position token rest kind).trans ?_
  rw [carried]

theorem counts_notADigit (kind : token.kind = .digit) (carried : token.value.digit? = none) :
    Counts limit (.level .atom) room ⟨position, token :: rest⟩ (.error (.notADigit token.value)) := by
  refine ⟨[token], rest, rfl, trivial, ?_⟩
  intro groups
  rw [capped_plain (by simp [isParen, kind]), capped_nil]
  refine (atom_digit_counted limit room _ position token rest kind).trans ?_
  rw [carried]

/-! What stands in a group has one group less to open. -/

theorem counts_insideFails (opens : token.kind = .openParen)
    (inside : Counts limit (.level .expression) room ⟨position + 1, rest⟩ (.error fault)) :
    Counts limit (.level .atom) (room + 1) ⟨position, token :: rest⟩ (.error fault) := by
  obtain ⟨seen, later, consumed, leaves, counted⟩ := inside
  exact ⟨token :: seen, later, congrArg (token :: ·) consumed, leaves_cons leaves, group_counted opens counted⟩

theorem counts_unclosed (opens : token.kind = .openParen)
    (inside : Counts limit (.level .expression) room ⟨position + 1, rest⟩ (.ok (tree, ⟨last, []⟩))) :
    Counts limit (.level .atom) (room + 1) ⟨position, token :: rest⟩ (.error (.grammar (.unclosed last))) := by
  obtain ⟨seen, later, consumed, leaves, counted⟩ := inside
  cases leaves
  exact ⟨token :: seen, [], congrArg (token :: ·) consumed, leaves_cons rfl, group_counted opens counted⟩

theorem counts_notClosing (opens : token.kind = .openParen) (other : closing.kind ≠ .closeParen)
    (inside : Counts limit (.level .expression) room ⟨position + 1, rest⟩ (.ok (tree, ⟨last, closing :: later⟩))) :
    Counts limit (.level .atom) (room + 1) ⟨position, token :: rest⟩
      (.error (.grammar (.notClosing closing.value last))) := by
  obtain ⟨seen, _, consumed, leaves, counted⟩ := inside
  cases leaves
  refine ⟨token :: seen, closing :: later, congrArg (token :: ·) consumed, leaves_cons rfl, ?_⟩
  intro groups
  have answered := group_counted opens counted groups
  simpa only [Except.bind, close, if_neg other] using answered

theorem counts_group (opens : token.kind = .openParen) (closes : closing.kind = .closeParen)
    (inside : Counts limit (.level .expression) room ⟨position + 1, rest⟩ (.ok (tree, ⟨last, closing :: later⟩))) :
    Counts limit (.level .atom) (room + 1) ⟨position, token :: rest⟩ (.ok (tree, ⟨last + 1, later⟩)) := by
  obtain ⟨seen, _, consumed, leaves, counted⟩ := inside
  cases leaves
  have passed : Leaves (position + 1 + seen.length) [closing] later
      (.ok (tree, ⟨position + 1 + seen.length + 1, later⟩)) := rfl
  refine ⟨token :: seen ++ [closing], later, ?_, leaves_cons (leaves_append passed), ?_⟩
  · simpa using consumed
  · intro groups
    have answered := group_counted opens counted groups
    rw [capped_closes closes]
    simpa only [Except.bind, close, if_pos closes, Cursor.past] using answered

/-! A sign passes one token and opens no group. -/

theorem counts_plain {cursor : Cursor} {outcome : Outcome} (noSign : ∀ token ∈ cursor.rest.head?, token.kind ≠ .minus)
    (operand : Counts limit (.level .atom) room cursor outcome) : Counts limit (.level .unary) room cursor outcome := by
  obtain ⟨seen, later, consumed, leaves, counted⟩ := operand
  refine ⟨seen, later, consumed, leaves, ?_⟩
  intro groups
  exact (unary_plain_counted limit room _ cursor noSign).trans (counted groups)

theorem counts_negatedFails (minus : token.kind = .minus)
    (operand : Counts limit (.level .atom) room ⟨position + 1, rest⟩ (.error fault)) :
    Counts limit (.level .unary) (room + 1) ⟨position, token :: rest⟩ (.error fault) := by
  obtain ⟨seen, later, consumed, leaves, counted⟩ := operand
  exact ⟨token :: seen, later, congrArg (token :: ·) consumed, leaves_cons leaves, negation_counted minus counted⟩

theorem counts_negated {next : Cursor} (minus : token.kind = .minus)
    (operand : Counts limit (.level .atom) room ⟨position + 1, rest⟩ (.ok (tree, next))) :
    Counts limit (.level .unary) (room + 1) ⟨position, token :: rest⟩ (.ok (.negative tree token.place, next)) := by
  obtain ⟨seen, later, consumed, leaves, counted⟩ := operand
  exact ⟨token :: seen, later, congrArg (token :: ·) consumed, leaves_cons leaves, negation_counted minus counted⟩

/-! Chains. Behind an operand as many groups may be opened as before it. -/

section Chains
variable {level inner : Level} {operator? : TokenKind → Option Operator} {operator : Operator} {left right : Expr}
  {cursor next : Cursor} {outcome : Outcome}

theorem counts_firstFails (layer : Layer level inner operator?)
    (first : Counts limit (.level inner) room cursor (.error fault)) :
    Counts limit (.level level) room cursor (.error fault) := by
  obtain ⟨seen, later, consumed, leaves, counted⟩ := first
  refine ⟨seen, later, consumed, leaves, ?_⟩
  intro groups
  exact chain_counted layer (counted groups)

theorem counts_chain (layer : Layer level inner operator?)
    (reads : Reads limit (.level inner) room cursor (.ok (tree, next)))
    (first : Counts limit (.level inner) room cursor (.ok (tree, next)))
    (more : Counts limit (.onward inner operator? tree) room next outcome) :
    Counts limit (.level level) room cursor outcome := by
  obtain ⟨seen, middle, consumed, leaves, counted⟩ := first
  cases leaves
  obtain ⟨passed, later, rfl, left, onward⟩ := more
  refine ⟨seen ++ passed, later, by simpa using consumed, leaves_append left, ?_⟩
  intro groups
  have balanced : Balanced seen := by
    obtain ⟨position, rest⟩ := cursor
    cases consumed
    exact passed_balanced reads rfl
  rw [capped_append balanced]
  refine (chain_counted layer (counted groups)).trans (congrArg (capped groups seen) ?_)
  exact onward groups _ (Nat.le_refl _)

theorem counts_stops (idle : ∀ token ∈ cursor.rest.head?, operator? token.kind = none) :
    Counts limit (.onward inner operator? left) room cursor (.ok (left, cursor)) := by
  refine counts_here (by simp [Leaves]) ?_
  intro groups turns enough
  exact chainFrom_idle _ _ turns left idle

theorem counts_operandFails (layer : Layer level inner operator?) (known : operator? token.kind = some operator)
    (operand : Counts limit (.level inner) room ⟨position + 1, rest⟩ (.error fault)) :
    Counts limit (.onward inner operator? left) room ⟨position, token :: rest⟩ (.error fault) := by
  obtain ⟨seen, later, consumed, leaves, counted⟩ := operand
  refine ⟨token :: seen, later, congrArg (token :: ·) consumed, leaves_cons leaves, ?_⟩
  intro groups turns enough
  cases turns with
  | nil => simp at enough
  | cons spare turns => exact turn_counted layer known (counted groups) spare turns left

theorem counts_turn (layer : Layer level inner operator?) (known : operator? token.kind = some operator)
    (reads : Reads limit (.level inner) room ⟨position + 1, rest⟩ (.ok (right, next)))
    (operand : Counts limit (.level inner) room ⟨position + 1, rest⟩ (.ok (right, next)))
    (more : Counts limit (.onward inner operator? (.binary operator left right token.place)) room next outcome) :
    Counts limit (.onward inner operator? left) room ⟨position, token :: rest⟩ outcome := by
  obtain ⟨seen, middle, consumed, leaves, counted⟩ := operand
  cases leaves
  obtain ⟨passed, later, rfl, ended, onward⟩ := more
  refine ⟨token :: (seen ++ passed), later, by simpa using consumed, leaves_cons (leaves_append ended), ?_⟩
  intro groups turns enough
  cases turns with
  | nil => simp at enough
  | cons spare turns =>
      have balanced : Balanced seen := by
        cases consumed
        exact passed_balanced reads rfl
      have shorter : (passed ++ later).length ≤ turns.length :=
        Nat.le_trans (reads_shortens reads) (Nat.le_of_succ_le_succ enough)
      have plain : isParen token.kind = false := sign_plain layer known
      rw [capped_plain plain, capped_append balanced, ← capped_plain plain]
      refine (turn_counted layer known (counted groups) spare turns left).trans ?_
      exact congrArg (capped groups (token :: seen)) (onward groups turns shorter)

end Chains

end Counts

theorem reads_counted {limit : Int} {stage : Stage} {room : Nat} {cursor : Cursor} {outcome : Outcome}
    (reads : Reads limit stage room cursor outcome) (proper : Proper stage) :
    Counts limit stage room cursor outcome := by
  induction reads with
  | @missing room position => exact counts_refused rfl (Or.inr (by simp)) (atom_missing limit room position)
  | digit kind carried => exact counts_digit kind carried
  | notADigit kind carried => exact counts_notADigit kind carried
  | @unexpected room position token rest noDigit noGroup =>
      exact counts_refused rfl (Or.inr (by simpa using noGroup)) (atom_unexpected limit room _ _ _ noDigit noGroup)
  | @groupTooDeep position token rest opens =>
      exact counts_refused rfl (Or.inl rfl) (atom_tooDeep limit position token rest opens)
  | insideFails opens inside ih => exact counts_insideFails opens (ih trivial)
  | unclosed opens inside ih => exact counts_unclosed opens (ih trivial)
  | notClosing opens inside other ih => exact counts_notClosing opens other (ih trivial)
  | group opens inside closes ih => exact counts_group opens closes (ih trivial)
  | plain noSign operand ih => exact counts_plain noSign (ih trivial)
  | @negationTooDeep position token rest minus =>
      exact counts_here (Int.add_zero position).symm fun _ => unary_tooDeep_counted limit _ position token rest minus
  | negatedFails minus operand ih => exact counts_negatedFails minus (ih trivial)
  | negated minus operand ih => exact counts_negated minus (ih trivial)
  | firstFails layer first ih => exact counts_firstFails layer (ih trivial)
  | chain layer first more ih_first ih_more =>
      exact counts_chain layer first (ih_first trivial) (ih_more ⟨_, layer⟩)
  | stops idle => exact counts_stops idle
  | operandFails known operand ih =>
      obtain ⟨level, layer⟩ := proper
      exact counts_operandFails layer known (ih trivial)
  | turn known operand more ih_operand ih_more =>
      obtain ⟨level, layer⟩ := proper
      exact counts_turn layer known operand (ih_operand trivial) (ih_more ⟨level, layer⟩)

/-- With the calls for so many groups, a list is answered as if calls were not counted, or more groups are open among
the tokens that are passed. -/
theorem whole_counted (limit : Int) (tokens : List Token) :
    ∃ seen later, tokens = seen ++ later ∧ Covers seen later (whole limit .unbounded tokens) ∧
      ∀ groups, whole limit (.calls (calls groups .expression)) tokens =
        capped groups seen (whole limit .unbounded tokens) := by
  obtain ⟨outcome, reads, answer⟩ := whole_call limit tokens
  obtain ⟨seen, later, consumed, leaves, counted⟩ := reads_counted reads trivial
  refine ⟨seen, later, consumed, ?_, ?_⟩
  · rw [answer]
    exact finished_covers leaves
  · intro groups
    have read : expression limit limit.toNat (.calls (calls groups .expression)) ⟨0, tokens⟩ =
        capped groups seen outcome := counted groups
    rw [answer, whole_eq, read]
    exact capped_bind groups seen outcome _

theorem spelled_counted {limit : Int} (natural : 0 ≤ limit) {tokens : List Token} {tree : Expr}
    (spelled : SpellsWithin limit tokens tree) (groups : Nat) :
    whole limit (.calls (calls groups .expression)) tokens = capped groups tokens (.ok tree) := by
  have read : whole limit .unbounded tokens = .ok tree := (whole_ok_iff limit natural tokens tree).mpr spelled
  obtain ⟨seen, later, consumed, covers, counted⟩ := whole_counted limit tokens
  rw [read] at covers
  cases covers
  rw [List.append_nil] at consumed
  rw [counted, read, consumed]

/-- A stack that has room for whole groups and the text around them, or for any number of calls. -/
def WholeGroups : Budget → Prop
  | .unbounded => True
  | .calls left => 6 ∣ left

theorem ofStack_wholeGroups (stack : Stack) : WholeGroups (.ofStack stack) :=
  ⟨stack.groups + 1, rfl⟩

def NoHigher (tokens others : List Token) : Prop :=
  ∀ groups, (groupsLeft groups (others.map Token.kind)).isSome = true →
    (groupsLeft groups (tokens.map Token.kind)).isSome = true

/-- A stack that is large enough for one list of tokens is large enough for a spelling that opens no more groups than
were open among the tokens passed. -/
theorem ofTokensWith_noHigher {budget : Budget} (sixes : WholeGroups budget) {limit : Int} (positive : 1 ≤ limit)
    {tokens seen later : List Token} (split : tokens = seen ++ later)
    (covers : Covers seen later (whole limit .unbounded tokens))
    (known : ∀ fault, whole limit .unbounded tokens = .error fault → ∃ found, fault = .grammar found)
    (answered : Expr.ofTokensWith budget limit tokens ≠ .error .outOfCalls) {again : List Token} {tree : Expr}
    (spelled : SpellsWithin limit again tree) (lower : NoHigher again seen) :
    Expr.ofTokensWith budget limit again = .ok tree := by
  have read : whole limit .unbounded again = .ok tree := (whole_ok_iff limit (by omega) again tree).mpr spelled
  rw [ofTokensWith_eq budget positive, ne_eq, telling_eq_outOfCalls] at answered
  rw [ofTokensWith_eq budget positive, telling_eq_ok]
  cases budget with
  | unbounded => exact read
  | calls left =>
      obtain ⟨count, rfl⟩ := sixes
      cases count with
      | zero => exact absurd rfl answered
      | succ groups =>
          obtain ⟨passed, rest, consumed, covered, counted⟩ := whole_counted limit tokens
          obtain ⟨rfl, rfl⟩ := covers_unique covers covered (split.symm.trans consumed) known
          have recounted := spelled_counted (by omega) spelled groups
          by_cases enough : (groupsLeft groups (seen.map Token.kind)).isSome = true
          · exact recounted.trans (if_pos (lower groups enough))
          · exact absurd ((counted groups).trans (if_neg enough)) answered

end DigitCalc.Grammar
