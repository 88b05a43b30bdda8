import DigitCalc.Proofs.OpenGroups

/-! Where a fault of the grammar lies: at the first token that no accepted list has there. What stands before the
fault can be completed, and a digit and the closing parentheses that are missing will do, so that no level is opened
that was not open. With the token at the fault there is no completion, because a call is decided by what it looks at.
Both hold whatever the limit is, and on a stack of any number of whole groups. -/
namespace DigitCalc.Grammar

/-- What a stage stands for: tokens of a level, or the turns that carry a chain on. -/
def SpelledAt (room : Nat) (tokens : List Token) : Stage → Prop
  | .level level => ∃ tree nesting, Spells level tokens tree nesting ∧ nesting ≤ room
  | .onward inner operator? _ => ∃ turns : List Turn,
      (∀ turn ∈ turns, operator? turn.sign.kind = some turn.operator) ∧
      (∀ turn ∈ turns, Spells inner turn.tokens turn.tree turn.nesting) ∧ (∀ turn ∈ turns, turn.nesting ≤ room) ∧
      tokens = Turn.spelling turns

/-- A digit stands for an operand that is missing. -/
def anyDigit : Token := ⟨.digit, .int 0, default⟩

def closing : Token := ⟨.closeParen, .text ")", default⟩

def Flat (tokens : List Token) : Prop :=
  ∀ token ∈ tokens, token.kind ≠ .openParen

theorem anyDigit_flat : Flat [anyDigit] := by
  simp [Flat, anyDigit]

theorem anyDigit_spelled (room : Nat) : SpelledAt room [anyDigit] (.level .atom) :=
  ⟨.digit 0 default, 0, @Spells.digit anyDigit 0 rfl rfl, Nat.zero_le _⟩

theorem closing_flat : Flat [closing] := by
  simp [Flat, closing]

theorem flat_append {first later : List Token} (flat : Flat first) (others : Flat later) : Flat (first ++ later) :=
  List.forall_mem_append.mpr ⟨flat, others⟩

theorem flat_left {tokens : List Token} (flat : Flat tokens) (left : Nat) :
    (groupsLeft left (tokens.map Token.kind)).isSome = true := by
  induction tokens generalizing left with
  | nil => rfl
  | cons token rest ih =>
      have later : Flat rest := fun other member => flat other (List.mem_cons_of_mem _ member)
      have other : token.kind ≠ .openParen := flat token List.mem_cons_self
      rw [List.map_cons, groupsLeft_cons]
      cases kind : token.kind with
      | openParen => exact absurd kind other
      | closeParen => exact ih later (left + 1)
      | _ => exact ih later left

theorem flat_noHigher {more : List Token} (flat : Flat more) (seen : List Token) : NoHigher (seen ++ more) seen := by
  intro groups enough
  obtain ⟨left, found⟩ := Option.isSome_iff_exists.mp enough
  rw [List.map_append, groupsLeft_append, found]
  exact flat_left flat left

theorem plain_spelled {room : Nat} {tokens : List Token} (operand : SpelledAt room tokens (.level .atom)) :
    SpelledAt room tokens (.level .unary) := by
  obtain ⟨tree, nesting, spelled, fits⟩ := operand
  exact ⟨tree, nesting, .plain spelled, fits⟩

theorem group_spelled {room : Nat} {opening last : Token} {tokens : List Token} (opens : opening.kind = .openParen)
    (closes : last.kind = .closeParen) (inside : SpelledAt room tokens (.level .expression)) :
    SpelledAt (room + 1) (opening :: (tokens ++ [last])) (.level .atom) := by
  obtain ⟨tree, nesting, spelled, fits⟩ := inside
  exact ⟨tree, nesting + 1, .group opens spelled closes, Nat.succ_le_succ fits⟩

theorem negated_spelled {room : Nat} {sign : Token} {tokens : List Token} (minus : sign.kind = .minus)
    (operand : SpelledAt room tokens (.level .atom)) : SpelledAt (room + 1) (sign :: tokens) (.level .unary) := by
  obtain ⟨tree, nesting, spelled, fits⟩ := operand
  exact ⟨_, nesting + 1, .negated minus spelled, Nat.succ_le_succ fits⟩

theorem chain_spelled {room : Nat} {level inner : Level} {operator? : TokenKind → Option Operator}
    (layer : Layer level inner operator?) {tokens more : List Token} {tree : Expr} {nesting : Nat}
    (first : Spells inner tokens tree nesting) (fits : nesting ≤ room) {left : Expr}
    (onward : SpelledAt room more (.onward inner operator? left)) :
    SpelledAt room (tokens ++ more) (.level level) := by
  obtain ⟨turns, signs, operands, room_for, rfl⟩ := onward
  exact ⟨_, _, .chain layer first signs operands, (Turn.deepest_le_iff nesting room turns).mpr ⟨fits, room_for⟩⟩

theorem turn_spelled {room : Nat} {inner : Level} {operator? : TokenKind → Option Operator} {sign : Token}
    {operator : Operator} (known : operator? sign.kind = some operator) {tokens more : List Token} {tree : Expr}
    {nesting : Nat} (operand : Spells inner tokens tree nesting) (fits : nesting ≤ room) {left later : Expr}
    (onward : SpelledAt room more (.onward inner operator? later)) :
    SpelledAt room (sign :: (tokens ++ more)) (.onward inner operator? left) := by
  obtain ⟨turns, signs, operands, room_for, rfl⟩ := onward
  refine ⟨⟨sign, operator, tokens, tree, nesting⟩ :: turns, ?_, ?_, ?_, ?_⟩
  · simpa using ⟨known, signs⟩
  · simpa using ⟨operand, operands⟩
  · simpa using ⟨fits, room_for⟩
  · rw [Turn.spelling_cons]

theorem last_spelled {room : Nat} {inner : Level} {operator? : TokenKind → Option Operator} {sign : Token}
    {operator : Operator} (known : operator? sign.kind = some operator) {tokens : List Token} {left : Expr}
    (operand : SpelledAt room tokens (.level inner)) :
    SpelledAt room (sign :: tokens) (.onward inner operator? left) := by
  obtain ⟨tree, nesting, spelled, fits⟩ := operand
  have none : SpelledAt room [] (.onward inner operator? tree) := ⟨[], by simp [Turn.spelling]⟩
  have longer : SpelledAt room (sign :: (tokens ++ [])) (.onward inner operator? left) :=
    turn_spelled known spelled fits none
  rwa [List.append_nil] at longer

theorem lone_spelled {room : Nat} {level inner : Level} {operator? : TokenKind → Option Operator}
    (layer : Layer level inner operator?) {tokens : List Token} (operand : SpelledAt room tokens (.level inner)) :
    SpelledAt room tokens (.level level) := by
  obtain ⟨tree, nesting, spelled, fits⟩ := operand
  exact ⟨tree, nesting, .lone layer spelled, fits⟩

/-- What was passed before the fault is completed without opening a group. -/
def Completed (stage : Stage) (room : Nat) (cursor : Cursor) (fault : SyntaxFault) : Prop :=
  ∃ seen later more, cursor.rest = seen ++ later ∧ Leaves cursor.position seen later (.error (.grammar fault)) ∧
    Flat more ∧ SpelledAt room (seen ++ more) stage

section Completed
variable {limit position : Int} {room : Nat} {cursor next : Cursor} {token : Token} {rest : List Token} {tree : Expr}
  {fault : SyntaxFault} {level inner : Level} {operator? : TokenKind → Option Operator} {operator : Operator}
  {left right : Expr}

theorem completed_here (here : fault.position = cursor.position) : Completed (.level .atom) room cursor fault :=
  ⟨[], cursor.rest, [anyDigit], rfl, here.trans (Int.add_zero _).symm, anyDigit_flat, anyDigit_spelled room⟩

theorem completed_inside (opens : token.kind = .openParen)
    (inside : Completed (.level .expression) room ⟨position + 1, rest⟩ fault) :
    Completed (.level .atom) (room + 1) ⟨position, token :: rest⟩ fault := by
  obtain ⟨seen, later, more, consumed, leaves, flat, spelled⟩ := inside
  refine ⟨token :: seen, later, more ++ [closing], congrArg (token :: ·) consumed, leaves_cons leaves,
    flat_append flat closing_flat, ?_⟩
  simpa using @group_spelled room token closing (seen ++ more) opens rfl spelled

/-- Whatever stands behind what is in the group, a closing parenthesis would do. -/
theorem completed_closing (opens : token.kind = .openParen)
    (inside : Reads limit (.level .expression) room ⟨position + 1, rest⟩ (.ok (tree, next)))
    (here : fault.position = next.position) :
    Completed (.level .atom) (room + 1) ⟨position, token :: rest⟩ fault := by
  obtain ⟨tokens, nesting, spelled, fits, consumed, moved⟩ := reads_sound inside
  exact ⟨token :: tokens, next.rest, [closing], congrArg (token :: ·) consumed, leaves_cons (here.trans moved),
    closing_flat, group_spelled opens rfl ⟨tree, nesting, spelled, fits⟩⟩

theorem completed_plain (operand : Completed (.level .atom) room cursor fault) :
    Completed (.level .unary) room cursor fault := by
  obtain ⟨seen, later, more, consumed, leaves, flat, spelled⟩ := operand
  exact ⟨seen, later, more, consumed, leaves, flat, plain_spelled spelled⟩

theorem completed_negated (minus : token.kind = .minus)
    (operand : Completed (.level .atom) room ⟨position + 1, rest⟩ fault) :
    Completed (.level .unary) (room + 1) ⟨position, token :: rest⟩ fault := by
  obtain ⟨seen, later, more, consumed, leaves, flat, spelled⟩ := operand
  exact ⟨token :: seen, later, more, congrArg (token :: ·) consumed, leaves_cons leaves, flat,
    negated_spelled minus spelled⟩

theorem completed_first (layer : Layer level inner operator?) (first : Completed (.level inner) room cursor fault) :
    Completed (.level level) room cursor fault := by
  obtain ⟨seen, later, more, consumed, leaves, flat, spelled⟩ := first
  exact ⟨seen, later, more, consumed, leaves, flat, lone_spelled layer spelled⟩

theorem completed_chain (layer : Layer level inner operator?)
    (first : Reads limit (.level inner) room cursor (.ok (tree, next)))
    (more : Completed (.onward inner operator? tree) room next fault) : Completed (.level level) room cursor fault := by
  obtain ⟨tokens, nesting, spelled, fits, consumed, moved⟩ := reads_sound first
  obtain ⟨seen, later, rest, passed, leaves, flat, onward⟩ := more
  rw [moved] at leaves
  refine ⟨tokens ++ seen, later, rest, ?_, leaves_append leaves, flat, ?_⟩
  · rw [consumed, passed, List.append_assoc]
  · rw [List.append_assoc]
    exact chain_spelled layer spelled fits onward

theorem completed_operand (known : operator? token.kind = some operator)
    (operand : Completed (.level inner) room ⟨position + 1, rest⟩ fault) :
    Completed (.onward inner operator? left) room ⟨position, token :: rest⟩ fault := by
  obtain ⟨seen, later, more, consumed, leaves, flat, spelled⟩ := operand
  exact ⟨token :: seen, later, more, congrArg (token :: ·) consumed, leaves_cons leaves, flat,
    last_spelled known spelled⟩

theorem completed_turn (known : operator? token.kind = some operator)
    (operand : Reads limit (.level inner) room ⟨position + 1, rest⟩ (.ok (right, next)))
    (more : Completed (.onward inner operator? (.binary operator left right token.place)) room next fault) :
    Completed (.onward inner operator? left) room ⟨position, token :: rest⟩ fault := by
  obtain ⟨tokens, nesting, spelled, fits, consumed, moved⟩ := reads_sound operand
  obtain ⟨seen, later, rest, passed, leaves, flat, onward⟩ := more
  rw [moved] at leaves
  refine ⟨token :: (tokens ++ seen), later, rest, ?_, leaves_cons (leaves_append leaves), flat, ?_⟩
  · simpa [passed] using consumed
  · rw [List.cons_append, List.append_assoc]
    exact turn_spelled known spelled fits onward

end Completed

theorem reads_completed {limit : Int} {stage : Stage} {room : Nat} {cursor : Cursor} {outcome : Outcome}
    (reads : Reads limit stage room cursor outcome) (fault : SyntaxFault)
    (failed : outcome = .error (.grammar fault)) : Completed stage room cursor fault := by
  induction reads with
  | missing | unexpected | groupTooDeep =>
      cases failed
      exact completed_here rfl
  | insideFails opens inside ih => exact completed_inside opens (ih failed)
  | unclosed opens inside | notClosing opens inside =>
      cases failed
      exact completed_closing opens inside rfl
  | plain noSign operand ih => exact completed_plain (ih failed)
  | negationTooDeep =>
      cases failed
      exact completed_plain (completed_here rfl)
  | negatedFails minus operand ih => exact completed_negated minus (ih failed)
  | firstFails layer first ih => exact completed_first layer (ih failed)
  | chain layer first more ih_first ih_more => exact completed_chain layer first (ih_more failed)
  | operandFails known operand ih => exact completed_operand known (ih failed)
  | turn known operand more ih_operand ih_more => exact completed_turn known operand (ih_more failed)
  | digit | notADigit | group | negated | stops => cases failed

theorem whole_completed {limit : Int} (natural : 0 ≤ limit) {tokens : List Token} {fault : SyntaxFault}
    (failed : whole limit .unbounded tokens = .error (.grammar fault)) :
    ∃ seen later more tree, tokens = seen ++ later ∧ fault.position = seen.length ∧ Flat more ∧
      SpellsWithin limit (seen ++ more) tree := by
  obtain ⟨outcome, reads, answer⟩ := whole_call limit tokens
  rw [answer] at failed
  rcases outcome with found | ⟨tree, position, rest⟩
  · cases failed
    obtain ⟨seen, later, more, consumed, place, flat, tree, nesting, spelled, fits⟩ := reads_completed reads fault rfl
    exact ⟨seen, later, more, tree, consumed, place.trans (Int.zero_add _), flat, nesting, spelled, by omega⟩
  -- A whole expression is followed by a token: without that token and what comes after it, it is complete.
  · obtain ⟨seen, nesting, spelled, fits, consumed, moved⟩ := reads_sound reads
    cases rest with
    | nil => cases failed
    | cons token rest =>
        cases failed
        refine ⟨seen, token :: rest, [], tree, consumed, moved.trans (Int.zero_add _), by simp [Flat], nesting, ?_, ?_⟩
        · rwa [List.append_nil]
        · omega

/-! The position of a fault. -/

def Accepts (budget : Budget) (limit : Int) (tokens : List Token) : Prop :=
  ∃ tree, Expr.ofTokensWith budget limit tokens = .ok tree

section Position
variable {budget : Budget} {limit : Int} {tokens : List Token} {fault : SyntaxFault}

/-- The tokens before a fault and those from the fault on: the former can be completed, and no accepted list begins
with the former and the token at the fault. -/
theorem failed_split (sixes : WholeGroups budget)
    (failed : Expr.ofTokensWith budget limit tokens = .error (.grammar fault)) :
    ∃ seen later, tokens = seen ++ later ∧ fault.position = seen.length ∧
      (∃ more, Accepts budget limit (seen ++ more)) ∧
      ∀ token ∈ later.head?, ∀ more, ¬ Accepts budget limit (seen ++ token :: more) := by
  have positive : 1 ≤ limit := ofTokensWith_positive budget tokens (by simp [failed])
  have answered : Expr.ofTokensWith budget limit tokens ≠ .error .outOfCalls := by
    rw [failed]
    exact nofun
  have whole_failed : whole limit .unbounded tokens = .error (.grammar fault) := by
    refine telling_grammar ?_
    rw [← ofTokensWith_uncounted budget positive tokens answered, failed]
  obtain ⟨seen, later, split, covers, again⟩ := whole_local limit tokens
  have place : fault.position = seen.length := by rwa [whole_failed] at covers
  refine ⟨seen, later, split, place, ?_, ?_⟩
  · obtain ⟨passed, left, more, tree, consumed, there, flat, spelled⟩ := whole_completed (by omega) whole_failed
    have length : seen.length = passed.length := Int.ofNat.inj (place.symm.trans there)
    obtain ⟨rfl, rfl⟩ := List.append_inj (split.symm.trans consumed) length
    have known : ∀ found, whole limit .unbounded tokens = .error found → ∃ cause, found = .grammar cause := by
      intro found same
      rw [whole_failed] at same
      cases same
      exact ⟨fault, rfl⟩
    exact ⟨more, tree, ofTokensWith_noHigher sixes positive split covers known answered spelled
      (flat_noHigher flat seen)⟩
  · rintro token first more ⟨tree, accepted⟩
    have refused := again (.grammar fault) whole_failed (token :: more) first.symm
    have uncounted := ofTokensWith_uncounted budget positive (seen ++ token :: more) (by simp [accepted])
    rw [accepted, refused] at uncounted
    cases (telling_eq_ok _ _).mp uncounted.symm

/-- A fault lies at the first token that cannot be there: the tokens before it begin an accepted list, and with the
token at it they begin none. It lies behind the last token just where the tokens only stop too early. -/
theorem ofTokensWith_fault_position (budget : Budget) (limit : Int) (tokens : List Token) (fault : SyntaxFault)
    (sixes : WholeGroups budget) (failed : Expr.ofTokensWith budget limit tokens = .error (.grammar fault)) :
    (0 ≤ fault.position ∧ fault.position ≤ tokens.length) ∧
    (∃ whole, Accepts budget limit whole ∧ tokens.take fault.position.toNat <+: whole) ∧
    (fault.position < tokens.length → ∀ whole, Accepts budget limit whole →
      ¬ tokens.take (fault.position.toNat + 1) <+: whole) ∧
    (fault.position = tokens.length ↔ ∃ whole, Accepts budget limit whole ∧ tokens <+: whole ∧ whole ≠ tokens) := by
  obtain ⟨seen, later, rfl, place, ⟨more, completed⟩, refused⟩ := failed_split sixes failed
  rw [place, Int.toNat_natCast, List.take_left, List.length_append]
  have beyond : seen.length < seen.length + later.length → ∀ whole, Accepts budget limit whole →
      ¬ (seen ++ later).take (seen.length + 1) <+: whole := by
    rintro short whole accepted ⟨rest, rfl⟩
    cases later with
    | nil => simp at short
    | cons token later =>
        rw [List.take_length_add_append, List.append_assoc] at accepted
        exact refused token rfl rest accepted
  refine ⟨by omega, ⟨seen ++ more, completed, List.prefix_append seen more⟩, ?_, ?_⟩
  · intro short
    exact beyond (by omega)
  · constructor
    · intro ended
      have none : later = [] := List.length_eq_zero_iff.mp (by omega)
      subst later
      rw [List.append_nil] at failed ⊢
      refine ⟨seen ++ more, completed, List.prefix_append seen more, ?_⟩
      intro same
      obtain ⟨tree, accepted⟩ := completed
      rw [same, failed] at accepted
      cases accepted
    · rintro ⟨whole, accepted, begins, _⟩
      rcases Nat.lt_or_ge seen.length (seen.length + later.length) with short | ended
      · exact absurd ((List.take_prefix _ _).trans begins) (beyond short whole accepted)
      · omega

def groupedNegation : List Token :=
  [⟨.openParen, .text "(", ⟨1, 1⟩⟩, ⟨.minus, .text "-", ⟨1, 2⟩⟩, ⟨.digit, .int 1, ⟨1, 3⟩⟩,
    ⟨.closeParen, .text ")", ⟨1, 4⟩⟩]

theorem ofTokensWith_fault_position_groupedNegation : WholeGroups (.ofStack .ofCommand) ∧
    Expr.ofTokensWith (.ofStack .ofCommand) 1 groupedNegation = .error (.grammar (.tooDeep 1 1)) ∧
    (∃ whole, Accepts (.ofStack .ofCommand) 1 whole ∧ groupedNegation.take 1 <+: whole) ∧
    ∀ whole, Accepts (.ofStack .ofCommand) 1 whole → ¬ groupedNegation.take 2 <+: whole := by
  have failed : Expr.ofTokensWith (.ofStack .ofCommand) 1 groupedNegation = .error (.grammar (.tooDeep 1 1)) := rfl
  have found := ofTokensWith_fault_position (.ofStack .ofCommand) 1 groupedNegation (.tooDeep 1 1)
    (ofStack_wholeGroups .ofCommand) failed
  exact ⟨ofStack_wholeGroups .ofCommand, failed, found.2.1, found.2.2.1 (by decide)⟩

end Position

end DigitCalc.Grammar
