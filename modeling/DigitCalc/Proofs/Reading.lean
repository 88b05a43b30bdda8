import DigitCalc.Proofs.Derivation

/-! What one call of a procedure can do, told as rules. A call at a cursor ends with an expression and the cursor after
it, or with a fault; each rule names the tokens that were looked at and the inner calls that were made. The rules say
everything that the procedures do while calls are not counted, so a property of every call is an induction on them. -/
namespace DigitCalc.Grammar

abbrev Outcome := Except ParseFault (Expr × Cursor)

/-- What is under way: a level, or what is left of a chain after `left`. -/
inductive Stage where
  | level (level : Level)
  | onward (inner : Level) (operator? : TokenKind → Option Operator) (left : Expr)

inductive Reads (limit : Int) : Stage → Nat → Cursor → Outcome → Prop where
  -- Atoms. A group leaves one level less for what is inside it.
  | missing {room : Nat} {position : Int} :
      Reads limit (.level .atom) room ⟨position, []⟩ (.error (.grammar (.missing position)))
  | digit {room : Nat} {position : Int} {token : Token} {rest : List Token} {value : Fin 10}
      (kind : token.kind = .digit) (carried : token.value.digit? = some value) :
      Reads limit (.level .atom) room ⟨position, token :: rest⟩ (.ok (.digit value token.place, ⟨position + 1, rest⟩))
  | notADigit {room : Nat} {position : Int} {token : Token} {rest : List Token}
      (kind : token.kind = .digit) (carried : token.value.digit? = none) :
      Reads limit (.level .atom) room ⟨position, token :: rest⟩ (.error (.notADigit token.value))
  | unexpected {room : Nat} {position : Int} {token : Token} {rest : List Token}
      (noDigit : token.kind ≠ .digit) (noGroup : token.kind ≠ .openParen) :
      Reads limit (.level .atom) room ⟨position, token :: rest⟩
        (.error (.grammar (.unexpected token.value position)))
  | groupTooDeep {position : Int} {token : Token} {rest : List Token} (opens : token.kind = .openParen) :
      Reads limit (.level .atom) 0 ⟨position, token :: rest⟩ (.error (.grammar (.tooDeep limit position)))
  | insideFails {room : Nat} {position : Int} {token : Token} {rest : List Token} {fault : ParseFault}
      (opens : token.kind = .openParen)
      (inside : Reads limit (.level .expression) room ⟨position + 1, rest⟩ (.error fault)) :
      Reads limit (.level .atom) (room + 1) ⟨position, token :: rest⟩ (.error fault)
  | unclosed {room : Nat} {position last : Int} {token : Token} {rest : List Token} {tree : Expr}
      (opens : token.kind = .openParen)
      (inside : Reads limit (.level .expression) room ⟨position + 1, rest⟩ (.ok (tree, ⟨last, []⟩))) :
      Reads limit (.level .atom) (room + 1) ⟨position, token :: rest⟩ (.error (.grammar (.unclosed last)))
  | notClosing {room : Nat} {position last : Int} {token closing : Token} {rest later : List Token} {tree : Expr}
      (opens : token.kind = .openParen)
      (inside : Reads limit (.level .expression) room ⟨position + 1, rest⟩ (.ok (tree, ⟨last, closing :: later⟩)))
      (other : closing.kind ≠ .closeParen) :
      Reads limit (.level .atom) (room + 1) ⟨position, token :: rest⟩
        (.error (.grammar (.notClosing closing.value last)))
  | group {room : Nat} {position last : Int} {token closing : Token} {rest later : List Token} {tree : Expr}
      (opens : token.kind = .openParen)
      (inside : Reads limit (.level .expression) room ⟨position + 1, rest⟩ (.ok (tree, ⟨last, closing :: later⟩)))
      (closes : closing.kind = .closeParen) :
      Reads limit (.level .atom) (room + 1) ⟨position, token :: rest⟩ (.ok (tree, ⟨last + 1, later⟩))
  -- A minus sign leaves one level less for its operand.
  | plain {room : Nat} {cursor : Cursor} {outcome : Outcome}
      (noSign : ∀ token ∈ cursor.rest.head?, token.kind ≠ .minus)
      (operand : Reads limit (.level .atom) room cursor outcome) :
      Reads limit (.level .unary) room cursor outcome
  | negationTooDeep {position : Int} {token : Token} {rest : List Token} (minus : token.kind = .minus) :
      Reads limit (.level .unary) 0 ⟨position, token :: rest⟩ (.error (.grammar (.tooDeep limit position)))
  | negatedFails {room : Nat} {position : Int} {token : Token} {rest : List Token} {fault : ParseFault}
      (minus : token.kind = .minus) (operand : Reads limit (.level .atom) room ⟨position + 1, rest⟩ (.error fault)) :
      Reads limit (.level .unary) (room + 1) ⟨position, token :: rest⟩ (.error fault)
  | negated {room : Nat} {position : Int} {token : Token} {rest : List Token} {tree : Expr} {next : Cursor}
      (minus : token.kind = .minus)
      (operand : Reads limit (.level .atom) room ⟨position + 1, rest⟩ (.ok (tree, next))) :
      Reads limit (.level .unary) (room + 1) ⟨position, token :: rest⟩ (.ok (.negative tree token.place, next))
  -- Chains. A chain is never given up between its operands, only inside one of them.
  | firstFails {level inner : Level} {operator? : TokenKind → Option Operator} (layer : Layer level inner operator?)
      {room : Nat} {cursor : Cursor} {fault : ParseFault}
      (first : Reads limit (.level inner) room cursor (.error fault)) :
      Reads limit (.level level) room cursor (.error fault)
  | chain {level inner : Level} {operator? : TokenKind → Option Operator} (layer : Layer level inner operator?)
      {room : Nat} {cursor next : Cursor} {tree : Expr} {outcome : Outcome}
      (first : Reads limit (.level inner) room cursor (.ok (tree, next)))
      (more : Reads limit (.onward inner operator? tree) room next outcome) :
      Reads limit (.level level) room cursor outcome
  | stops {inner : Level} {operator? : TokenKind → Option Operator} {left : Expr} {room : Nat} {cursor : Cursor}
      (idle : ∀ token ∈ cursor.rest.head?, operator? token.kind = none) :
      Reads limit (.onward inner operator? left) room cursor (.ok (left, cursor))
  | operandFails {inner : Level} {operator? : TokenKind → Option Operator} {left : Expr} {room : Nat} {position : Int}
      {token : Token} {rest : List Token} {operator : Operator} {fault : ParseFault}
      (known : operator? token.kind = some operator)
      (operand : Reads limit (.level inner) room ⟨position + 1, rest⟩ (.error fault)) :
      Reads limit (.onward inner operator? left) room ⟨position, token :: rest⟩ (.error fault)
  | turn {inner : Level} {operator? : TokenKind → Option Operator} {left right : Expr} {room : Nat} {position : Int}
      {token : Token} {rest : List Token} {operator : Operator} {next : Cursor} {outcome : Outcome}
      (known : operator? token.kind = some operator)
      (operand : Reads limit (.level inner) room ⟨position + 1, rest⟩ (.ok (right, next)))
      (more : Reads limit (.onward inner operator? (.binary operator left right token.place)) room next outcome) :
      Reads limit (.onward inner operator? left) room ⟨position, token :: rest⟩ outcome

/-! The procedures, one equation for each thing that can be met while calls are not counted. -/

def deeper? (procedure : Nat → Procedure) : Nat → Option Procedure
  | 0 => none
  | room + 1 => some (procedure room)

theorem deeper?_all {procedure : Nat → Procedure} {property : Procedure → Prop} {room : Nat}
    (below : ∀ less, room = less + 1 → property (procedure less)) :
    ∀ deeper ∈ deeper? procedure room, property deeper := by
  intro deeper member
  cases room with
  | zero => cases member
  | succ room =>
      cases member
      exact below room rfl

theorem atom_eq (limit : Int) (room : Nat) : atom limit room = atomWith limit (deeper? (expression limit) room) := by
  cases room with
  | zero => rfl
  | succ room => exact atom_succ limit room

theorem unary_eq (limit : Int) (room : Nat) :
    unary limit room = unaryWith limit (atom limit room) (deeper? (atom limit) room) := by
  cases room <;> rfl

theorem chain_eq {level inner : Level} {operator? : TokenKind → Option Operator} (layer : Layer level inner operator?)
    (limit : Int) (room : Nat) :
    level.procedure limit room = within (chain operator? (inner.procedure limit room)) := by
  cases layer <;> rfl

section Equations
variable (limit : Int) (room : Nat) (position : Int) (token : Token) (rest : List Token)

theorem atom_missing : atom limit room .unbounded ⟨position, []⟩ = .error (.grammar (.missing position)) := by
  rw [atom_eq]
  rfl

theorem atom_digit (kind : token.kind = .digit) : atom limit room .unbounded ⟨position, token :: rest⟩ =
    match token.value.digit? with
    | none => .error (.notADigit token.value)
    | some value => .ok (.digit value token.place, ⟨position + 1, rest⟩) := by
  simp only [atom_eq, atomWith, Budget.enter, bind, Except.bind, kind]
  rfl

theorem atom_tooDeep (opens : token.kind = .openParen) :
    atom limit 0 .unbounded ⟨position, token :: rest⟩ = .error (.grammar (.tooDeep limit position)) := by
  simp only [atom_eq, atomWith, Budget.enter, bind, Except.bind, opens, deeper?]

theorem atom_group (opens : token.kind = .openParen) : atom limit (room + 1) .unbounded ⟨position, token :: rest⟩ =
    (expression limit room .unbounded ⟨position + 1, rest⟩).bind fun found => close found.1 found.2 := by
  simp only [atom_eq, atomWith, Budget.enter, bind, Except.bind, opens, deeper?, Cursor.past]

theorem atom_unexpected (noDigit : token.kind ≠ .digit) (noGroup : token.kind ≠ .openParen) :
    atom limit room .unbounded ⟨position, token :: rest⟩ = .error (.grammar (.unexpected token.value position)) := by
  rw [atom_eq]
  cases kind : token.kind with
  | digit => exact absurd kind noDigit
  | openParen => exact absurd kind noGroup
  | _ => simp only [atomWith, Budget.enter, bind, Except.bind, kind]

theorem unary_plain (cursor : Cursor) (noSign : ∀ token ∈ cursor.rest.head?, token.kind ≠ .minus) :
    unary limit room .unbounded cursor = atom limit room .unbounded cursor := by
  obtain ⟨position, rest⟩ := cursor
  cases rest with
  | nil =>
      rw [unary_eq, atom_missing]
      rfl
  | cons token rest =>
      have other : token.kind ≠ .minus := by simpa using noSign
      simp only [unary_eq, unaryWith, Budget.enter, bind, Except.bind, if_neg other]

theorem unary_tooDeep (minus : token.kind = .minus) :
    unary limit 0 .unbounded ⟨position, token :: rest⟩ = .error (.grammar (.tooDeep limit position)) := by
  simp only [unary_eq, unaryWith, Budget.enter, bind, Except.bind, if_pos minus, deeper?]

theorem unary_negated (minus : token.kind = .minus) : unary limit (room + 1) .unbounded ⟨position, token :: rest⟩ =
    (atom limit room .unbounded ⟨position + 1, rest⟩).map fun found => (.negative found.1 token.place, found.2) := by
  simp only [unary_eq, unaryWith, Budget.enter, bind, Except.bind, if_pos minus, deeper?, Cursor.past]
  rfl

theorem chain_run {level inner : Level} {operator? : TokenKind → Option Operator} (layer : Layer level inner operator?)
    (cursor : Cursor) : level.procedure limit room .unbounded cursor =
      (inner.procedure limit room .unbounded cursor).bind fun found =>
        chainFrom operator? (inner.procedure limit room) .unbounded found.2.rest found.1 found.2 := by
  rw [chain_eq layer]
  rfl

theorem chainFrom_idle {operator? : TokenKind → Option Operator} (operand : Procedure) (budget : Budget)
    (turns : List Token) (tree : Expr) {cursor : Cursor}
    (idle : ∀ token ∈ cursor.rest.head?, operator? token.kind = none) :
    chainFrom operator? operand budget turns tree cursor = .ok (tree, cursor) := by
  obtain ⟨position, rest⟩ := cursor
  cases turns with
  | nil => rfl
  | cons spare turns =>
      cases rest with
      | nil => rfl
      | cons token rest =>
          have none : operator? token.kind = none := by simpa using idle
          simp only [chainFrom, none]

theorem chainFrom_turn {operator? : TokenKind → Option Operator} {operator : Operator}
    (known : operator? token.kind = some operator) (operand : Procedure) (budget : Budget) (spare : Token)
    (turns : List Token) (tree : Expr) :
    chainFrom operator? operand budget (spare :: turns) tree ⟨position, token :: rest⟩ =
      (operand budget ⟨position + 1, rest⟩).bind fun found =>
        chainFrom operator? operand budget turns (.binary operator tree found.1 token.place) found.2 := by
  simp only [chainFrom, known, Cursor.past]
  cases operand budget ⟨position + 1, rest⟩ <;> rfl

end Equations

/-- An atom rests on expressions with less room, a unary on atoms, a chain on its operands. -/
theorem procedures_induction {property : Level → Nat → Prop}
    (atom : ∀ room, (∀ below, room = below + 1 → property .expression below) → property .atom room)
    (unary : ∀ room, property .atom room → (∀ below, room = below + 1 → property .atom below) → property .unary room)
    (chain : ∀ level inner operator?, Layer level inner operator? → ∀ room, property inner room → property level room)
    (level : Level) (room : Nat) : property level room := by
  -- The room falls from a group or a sign to what is inside; within one room the levels follow one another.
  induction room using Nat.strongRecOn generalizing level with
  | ind room ih =>
      have below_atom : property .atom room :=
        atom room fun below same => ih below (by omega) .expression
      have below_unary : property .unary room :=
        unary room below_atom fun below same => ih below (by omega) .atom
      have below_term : property .term room := chain _ _ _ .term room below_unary
      cases level with
      | atom => exact below_atom
      | unary => exact below_unary
      | term => exact below_term
      | expression => exact chain _ _ _ .expression room below_term

/-! A call that succeeds has read a spelling of its level, nested no deeper than there was room for. -/

def Sound : Stage → Nat → Cursor → Outcome → Prop
  | _, _, _, .error _ => True
  | .level level, room, cursor, .ok (tree, next) =>
      ∃ tokens nesting, Spells level tokens tree nesting ∧ nesting ≤ room ∧ cursor.rest = tokens ++ next.rest ∧
        next.position = cursor.position + tokens.length
  | .onward inner operator? left, room, cursor, .ok (tree, next) =>
      ∃ turns : List Turn, (∀ turn ∈ turns, operator? turn.sign.kind = some turn.operator) ∧
        (∀ turn ∈ turns, Spells inner turn.tokens turn.tree turn.nesting) ∧ (∀ turn ∈ turns, turn.nesting ≤ room) ∧
        tree = Turn.fold left turns ∧ cursor.rest = Turn.spelling turns ++ next.rest ∧
        next.position = cursor.position + (Turn.spelling turns).length

theorem digit?_eq_some {datum : Datum} {value : Fin 10} (carried : datum.digit? = some value) :
    datum = .int value := by
  cases datum with
  | int n =>
      simp only [Datum.digit?] at carried
      split at carried
      · next range =>
          cases carried
          exact congrArg Datum.int (Int.toNat_of_nonneg range.1).symm
      · cases carried
  | _ => cases carried

theorem digit?_int (value : Fin 10) : (Datum.int value).digit? = some value := by
  have range : 0 ≤ (value : Int) ∧ (value : Int) < 10 := by omega
  simp [Datum.digit?, range]

theorem reads_sound {limit : Int} {stage : Stage} {room : Nat} {cursor : Cursor} {outcome : Outcome}
    (reads : Reads limit stage room cursor outcome) : Sound stage room cursor outcome := by
  induction reads with
  | digit kind carried => exact ⟨[_], 0, .digit kind (digit?_eq_some carried), Nat.zero_le _, rfl, by simp⟩
  | group opens inside closes ih =>
      obtain ⟨tokens, nesting, spelled, fits, consumed, moved⟩ := ih
      refine ⟨_, _, .group opens spelled closes, Nat.succ_le_succ fits, ?_, ?_⟩
      · simpa using consumed
      · simp only [List.length_cons, List.length_append, List.length_nil] at moved ⊢
        omega
  | @plain room cursor outcome noSign operand ih =>
      rcases outcome with fault | ⟨tree, next⟩
      · trivial
      · obtain ⟨tokens, nesting, spelled, consumed⟩ := ih
        exact ⟨tokens, nesting, .plain spelled, consumed⟩
  | negated minus operand ih =>
      obtain ⟨tokens, nesting, spelled, fits, consumed, moved⟩ := ih
      refine ⟨_, _, .negated minus spelled, Nat.succ_le_succ fits, ?_, ?_⟩
      · simpa using consumed
      · simp only [List.length_cons] at moved ⊢
        omega
  | @chain _ _ _ layer room cursor next tree outcome first more ih_first ih_more =>
      rcases outcome with fault | ⟨whole, last⟩
      · trivial
      · obtain ⟨tokens, nesting, spelled, fits, consumed, moved⟩ := ih_first
        obtain ⟨turns, signs, operands, room_for, folded, turned, arrived⟩ := ih_more
        subst whole
        refine ⟨_, _, .chain layer spelled signs operands, ?_, ?_, ?_⟩
        · exact (Turn.deepest_le_iff nesting room turns).mpr ⟨fits, room_for⟩
        · rw [consumed, turned, List.append_assoc]
        · rw [List.length_append]
          omega
  | stops => exact ⟨[], by simp [Turn.fold, Turn.spelling]⟩
  | @turn inner operator? left right room position token rest operator next outcome known operand more ih_operand
      ih_more =>
      rcases outcome with fault | ⟨whole, last⟩
      · trivial
      · obtain ⟨tokens, nesting, spelled, fits, consumed, moved⟩ := ih_operand
        obtain ⟨turns, signs, operands, room_for, folded, turned, arrived⟩ := ih_more
        refine ⟨⟨token, operator, tokens, right, nesting⟩ :: turns, ?_, ?_, ?_, folded, ?_, ?_⟩
        · simpa using ⟨known, signs⟩
        · simpa using ⟨spelled, operands⟩
        · simpa using ⟨fits, room_for⟩
        · simpa [Turn.spelling_cons, turned] using consumed
        · simp only [Turn.spelling_cons, List.length_cons, List.length_append] at moved ⊢
          omega
  -- What is left are faults, and they claim nothing.
  | _ => trivial

theorem reads_shortens {limit : Int} {level : Level} {room : Nat} {cursor next : Cursor} {tree : Expr}
    (reads : Reads limit (.level level) room cursor (.ok (tree, next))) : next.rest.length ≤ cursor.rest.length := by
  obtain ⟨tokens, nesting, spelled, fits, consumed, moved⟩ := reads_sound reads
  simp [consumed]

/-! The rules against the procedures. -/

theorem onward_reads {limit : Int} {inner : Level} {room : Nat} (operator? : TokenKind → Option Operator)
    (operands : ∀ cursor, Reads limit (.level inner) room cursor (inner.procedure limit room .unbounded cursor))
    (turns : List Token) (left : Expr) (cursor : Cursor) (enough : cursor.rest.length ≤ turns.length) :
    Reads limit (.onward inner operator? left) room cursor
      (chainFrom operator? (inner.procedure limit room) .unbounded turns left cursor) := by
  obtain ⟨position, rest⟩ := cursor
  -- The turns only bound the recursion: each one pays for the sign that it takes from the cursor.
  induction turns generalizing left position rest with
  | nil =>
      have ended : rest = [] := List.length_eq_zero_iff.mp (Nat.le_zero.mp enough)
      subst rest
      exact .stops (by simp)
  | cons _ turns ih =>
      cases rest with
      | nil => exact .stops (by simp)
      | cons token rest =>
          cases known : operator? token.kind with
          | none => simpa only [chainFrom, known] using .stops (by simpa using known)
          | some operator =>
              have operand := operands ⟨position + 1, rest⟩
              cases read : inner.procedure limit room .unbounded ⟨position + 1, rest⟩ with
              | error fault =>
                  rw [read] at operand
                  simpa only [chainFrom, known, Cursor.past, read] using .operandFails known operand
              | ok found =>
                  obtain ⟨right, next⟩ := found
                  rw [read] at operand
                  have shorter : next.rest.length ≤ turns.length :=
                    Nat.le_trans (reads_shortens operand) (Nat.le_of_succ_le_succ enough)
                  simpa only [chainFrom, known, Cursor.past, read] using
                    .turn known operand (ih (.binary operator left right token.place) next.position next.rest shorter)

theorem group_reads {limit : Int} {room : Nat} (inside : ∀ cursor,
      Reads limit (.level .expression) room cursor (expression limit room .unbounded cursor))
    (position : Int) {token : Token} (rest : List Token) (opens : token.kind = .openParen) :
    Reads limit (.level .atom) (room + 1) ⟨position, token :: rest⟩
      (atom limit (room + 1) .unbounded ⟨position, token :: rest⟩) := by
  have held := inside ⟨position + 1, rest⟩
  rw [atom_group limit room position token rest opens]
  generalize expression limit room .unbounded ⟨position + 1, rest⟩ = read at held ⊢
  rcases read with fault | ⟨tree, last, later⟩
  · exact .insideFails opens held
  · cases later with
    | nil => exact .unclosed opens held
    | cons closing later =>
        by_cases closes : closing.kind = .closeParen
        · simpa only [Except.bind, close, if_pos closes] using .group opens held closes
        · simpa only [Except.bind, close, if_neg closes] using .notClosing opens held closes

theorem atom_reads {limit : Int} {room : Nat} (inside : ∀ below, room = below + 1 → ∀ cursor,
      Reads limit (.level .expression) below cursor (expression limit below .unbounded cursor))
    (cursor : Cursor) : Reads limit (.level .atom) room cursor (atom limit room .unbounded cursor) := by
  obtain ⟨position, rest⟩ := cursor
  cases rest with
  | nil =>
      rw [atom_missing]
      exact .missing
  | cons token rest =>
      by_cases kind : token.kind = .digit
      · rw [atom_digit limit room position token rest kind]
        cases carried : token.value.digit? with
        | none => exact .notADigit kind carried
        | some value => exact .digit kind carried
      by_cases opens : token.kind = .openParen
      · cases room with
        | zero =>
            rw [atom_tooDeep limit position token rest opens]
            exact .groupTooDeep opens
        | succ room => exact group_reads (inside room rfl) position rest opens
      · rw [atom_unexpected limit room position token rest kind opens]
        exact .unexpected kind opens

theorem unary_reads {limit : Int} {room : Nat}
    (atoms : ∀ cursor, Reads limit (.level .atom) room cursor (atom limit room .unbounded cursor))
    (inside : ∀ below, room = below + 1 → ∀ cursor,
      Reads limit (.level .atom) below cursor (atom limit below .unbounded cursor))
    (cursor : Cursor) : Reads limit (.level .unary) room cursor (unary limit room .unbounded cursor) := by
  by_cases noSign : ∀ token ∈ cursor.rest.head?, token.kind ≠ .minus
  · rw [unary_plain limit room cursor noSign]
    exact .plain noSign (atoms cursor)
  · obtain ⟨position, rest⟩ := cursor
    cases rest with
    | nil => simp at noSign
    | cons token rest =>
        have minus : token.kind = .minus := by simpa using noSign
        cases room with
        | zero =>
            rw [unary_tooDeep limit position token rest minus]
            exact .negationTooDeep minus
        | succ room =>
            have operand := inside room rfl ⟨position + 1, rest⟩
            rw [unary_negated limit room position token rest minus]
            generalize atom limit room .unbounded ⟨position + 1, rest⟩ = read at operand ⊢
            rcases read with fault | ⟨tree, next⟩
            · exact .negatedFails minus operand
            · exact .negated minus operand

theorem procedure_reads (limit : Int) (level : Level) (room : Nat) (cursor : Cursor) :
    Reads limit (.level level) room cursor (level.procedure limit room .unbounded cursor) := by
  induction level, room using procedures_induction generalizing cursor with
  | atom room inside => exact atom_reads inside cursor
  | unary room atoms inside => exact unary_reads atoms inside cursor
  | chain level inner operator? layer room operands =>
      have first := operands cursor
      rw [chain_run limit room layer cursor]
      generalize inner.procedure limit room .unbounded cursor = read at first ⊢
      rcases read with fault | ⟨tree, next⟩
      · exact .firstFails layer first
      · exact .chain layer first (onward_reads operator? operands next.rest tree next (Nat.le_refl _))

/-- A chain needs no more turns than there are tokens. -/
def Results (limit : Int) (room : Nat) (cursor : Cursor) (outcome : Outcome) : Stage → Prop
  | .level level => level.procedure limit room .unbounded cursor = outcome
  | .onward inner operator? left => ∀ turns : List Token, cursor.rest.length ≤ turns.length →
      chainFrom operator? (inner.procedure limit room) .unbounded turns left cursor = outcome

theorem reads_result {limit : Int} {stage : Stage} {room : Nat} {cursor : Cursor} {outcome : Outcome}
    (reads : Reads limit stage room cursor outcome) : Results limit room cursor outcome stage := by
  induction reads with
  | missing => exact atom_missing _ _ _
  | digit kind carried =>
      refine (atom_digit _ _ _ _ _ kind).trans ?_
      rw [carried]
  | notADigit kind carried =>
      refine (atom_digit _ _ _ _ _ kind).trans ?_
      rw [carried]
  | unexpected noDigit noGroup => exact atom_unexpected _ _ _ _ _ noDigit noGroup
  | groupTooDeep opens => exact atom_tooDeep _ _ _ _ opens
  | insideFails opens inside ih =>
      exact (atom_group _ _ _ _ _ opens).trans (congrArg (Except.bind · _) ih)
  | unclosed opens inside ih =>
      exact (atom_group _ _ _ _ _ opens).trans (congrArg (Except.bind · _) ih)
  | notClosing opens inside other ih =>
      refine (atom_group _ _ _ _ _ opens).trans ((congrArg (Except.bind · _) ih).trans ?_)
      simp only [Except.bind, close, if_neg other]
  | group opens inside closes ih =>
      refine (atom_group _ _ _ _ _ opens).trans ((congrArg (Except.bind · _) ih).trans ?_)
      simp only [Except.bind, close, if_pos closes, Cursor.past]
  | plain noSign operand ih => exact (unary_plain _ _ _ noSign).trans ih
  | negationTooDeep minus => exact unary_tooDeep _ _ _ _ minus
  | negatedFails minus operand ih => exact (unary_negated _ _ _ _ _ minus).trans (congrArg (Except.map _) ih)
  | negated minus operand ih => exact (unary_negated _ _ _ _ _ minus).trans (congrArg (Except.map _) ih)
  | firstFails layer first ih => exact (chain_run _ _ layer _).trans (congrArg (Except.bind · _) ih)
  | chain layer first more ih_first ih_more =>
      exact (chain_run _ _ layer _).trans ((congrArg (Except.bind · _) ih_first).trans (ih_more _ (Nat.le_refl _)))
  | stops idle => exact fun turns _ => chainFrom_idle _ _ turns _ idle
  | @operandFails inner operator? left room position token rest operator fault known operand ih =>
      intro turns enough
      cases turns with
      | nil => simp at enough
      | cons first turns =>
          change inner.procedure limit room .unbounded ⟨position + 1, rest⟩ = .error fault at ih
          simp only [chainFrom, known, Cursor.past, ih]
  | @turn inner operator? left right room position token rest operator next outcome known operand more ih_operand
      ih_more =>
      intro turns enough
      cases turns with
      | nil => simp at enough
      | cons first turns =>
          change inner.procedure limit room .unbounded ⟨position + 1, rest⟩ = .ok (right, next) at ih_operand
          have shorter : next.rest.length ≤ turns.length :=
            Nat.le_trans (reads_shortens operand) (Nat.le_of_succ_le_succ enough)
          simpa only [chainFrom, known, Cursor.past, ih_operand] using ih_more turns shorter

/-- The rules describe each call exactly. -/
theorem reads_iff (limit : Int) (level : Level) (room : Nat) (cursor : Cursor) (outcome : Outcome) :
    Reads limit (.level level) room cursor outcome ↔ level.procedure limit room .unbounded cursor = outcome := by
  constructor
  · exact reads_result
  · rintro rfl
    exact procedure_reads limit level room cursor

end DigitCalc.Grammar
