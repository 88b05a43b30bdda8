import DigitCalc.Proofs.Exactness

/-! What a call looks at. A call passes some tokens and looks at the one behind them and no further, and it never looks
back. So the call may be made elsewhere, and what follows may be exchanged as long as its first token is kept: a call
that succeeds leaves the other tokens, and a call that fails fails in the same way, as far on as the call was moved. -/
namespace DigitCalc

def SyntaxFault.shift (offset : Int) : SyntaxFault → SyntaxFault
  | .missing position => .missing (position + offset)
  | .unclosed position => .unclosed (position + offset)
  | .notClosing found position => .notClosing found (position + offset)
  | .unexpected found position => .unexpected found (position + offset)
  | .trailing found position => .trailing found (position + offset)
  | .tooDeep limit position => .tooDeep limit (position + offset)

theorem SyntaxFault.shift_zero (fault : SyntaxFault) : fault.shift 0 = fault := by
  cases fault <;> simp [shift]

theorem SyntaxFault.shift_found? (offset : Int) (fault : SyntaxFault) :
    (fault.shift offset).found? = fault.found? := by
  cases fault <;> rfl

def ParseFault.shift (offset : Int) : ParseFault → ParseFault
  | .grammar fault => .grammar (fault.shift offset)
  | fault => fault

theorem ParseFault.shift_zero (fault : ParseFault) : fault.shift 0 = fault := by
  cases fault with
  | grammar fault => exact congrArg ParseFault.grammar fault.shift_zero
  | _ => rfl

/-- Moving a fault does not change what it names, so it can be told as before. -/
theorem ParseFault.shift_told (offset : Int) (fault : ParseFault) :
    (fault.shift offset).told = fault.told.shift offset := by
  cases fault with
  | grammar fault =>
      have same : (fault.shift offset).message? = none ↔ fault.message? = none := by
        rw [SyntaxFault.message?_eq_none, SyntaxFault.message?_eq_none, fault.shift_found?]
      simp only [shift, told, same]
      split <;> rfl
  | _ => rfl

namespace Grammar

/-- How a call that started at `position` stands to the tokens that it passed and to those that it left. A fault of
the grammar lies at the first token that was left. -/
def Leaves (position : Int) (seen later : List Token) : Outcome → Prop
  | .ok (_, next) => next = ⟨position + seen.length, later⟩
  | .error (.grammar fault) => fault.position = position + seen.length
  | .error _ => True

def onto (offset : Int) (later : List Token) : Outcome → Outcome
  | .ok (tree, next) => .ok (tree, ⟨next.position + offset, later⟩)
  | .error fault => .error (fault.shift offset)

theorem leaves_append {position : Int} {first seen later : List Token} {outcome : Outcome}
    (leaves : Leaves (position + first.length) seen later outcome) :
    Leaves position (first ++ seen) later outcome := by
  have further : position + first.length + seen.length = position + (first ++ seen).length := by
    rw [List.length_append]
    omega
  rcases outcome with fault | ⟨tree, next⟩
  · cases fault with
    | grammar fault => exact Eq.trans leaves further
    | _ => trivial
  · exact Eq.trans leaves (congrArg (Cursor.mk · later) further)

theorem leaves_cons {position : Int} {token : Token} {seen later : List Token} {outcome : Outcome}
    (leaves : Leaves (position + 1) seen later outcome) : Leaves position (token :: seen) later outcome :=
  @leaves_append position [token] seen later outcome leaves

theorem head_append {first later other : List Token} (same : other.head? = later.head?) :
    (first ++ other).head? = (first ++ later).head? := by
  rw [List.head?_append, List.head?_append, same]

theorem heads_nil {holds : List Token → Prop} (ended : holds []) (other : List Token)
    (same : other.head? = ([] : List Token).head?) : holds other := by
  rwa [List.head?_eq_none_iff.mp same]

theorem heads_cons {holds : List Token → Prop} {token : Token} {rest : List Token} (met : ∀ tail, holds (token :: tail))
    (other : List Token) (same : other.head? = (token :: rest).head?) : holds other := by
  obtain ⟨tail, rfl⟩ := List.head?_eq_some_iff.mp same
  exact met tail

/-- The call at the cursor is decided by the tokens that it passes and the first one that it leaves. -/
def DecidedAt (run : Cursor → Outcome) (cursor : Cursor) : Prop :=
  ∃ seen later, cursor.rest = seen ++ later ∧ Leaves cursor.position seen later (run cursor) ∧
    ∀ place other, other.head? = later.head? →
      run ⟨place, seen ++ other⟩ = onto (place - cursor.position) other (run cursor)

namespace DecidedAt
variable {run inner : Cursor → Outcome} {cursor : Cursor} {position : Int} {token : Token} {rest : List Token}

theorem fails (fault : ParseFault) (bare : ∀ found, fault ≠ .grammar found)
    (failed : ∀ cursor, run cursor = .error fault) : DecidedAt run cursor := by
  refine ⟨[], cursor.rest, rfl, ?_, ?_⟩
  · rw [failed]
    cases fault with
    | grammar found => exact absurd rfl (bare found)
    | _ => trivial
  · intro place other same
    rw [failed, failed]
    cases fault with
    | grammar found => exact absurd rfl (bare found)
    | _ => rfl

theorem refuses (fault : Int → SyntaxFault) (placed : ∀ place, (fault place).position = place)
    (moves : ∀ place offset, (fault place).shift offset = fault (place + offset))
    (refused : ∀ place other, other.head? = cursor.rest.head? →
      run ⟨place, other⟩ = .error (.grammar (fault place))) : DecidedAt run cursor := by
  have here : run cursor = .error (.grammar (fault cursor.position)) := refused cursor.position cursor.rest rfl
  refine ⟨[], cursor.rest, rfl, ?_, ?_⟩
  · rw [here]
    exact (placed cursor.position).trans (Int.add_zero _).symm
  · intro place other same
    have arrived : cursor.position + (place - cursor.position) = place := by omega
    rw [here, onto, ParseFault.shift, moves, arrived]
    exact refused place other same

theorem stays (tree : Expr) (stayed : ∀ place other, other.head? = cursor.rest.head? →
    run ⟨place, other⟩ = .ok (tree, ⟨place, other⟩)) : DecidedAt run cursor := by
  have here : run cursor = .ok (tree, cursor) := stayed cursor.position cursor.rest rfl
  refine ⟨[], cursor.rest, rfl, ?_, ?_⟩
  · rw [here]
    simp [Leaves]
  · intro place other same
    have arrived : cursor.position + (place - cursor.position) = place := by omega
    rw [here, onto, arrived]
    exact stayed place other same

theorem of_head (decided : DecidedAt inner cursor)
    (same : ∀ place other, other.head? = cursor.rest.head? → run ⟨place, other⟩ = inner ⟨place, other⟩) :
    DecidedAt run cursor := by
  obtain ⟨seen, later, consumed, leaves, again⟩ := decided
  have here : run cursor = inner cursor := same cursor.position cursor.rest rfl
  refine ⟨seen, later, consumed, ?_, ?_⟩
  · rwa [here]
  · intro place other heads
    rw [here, ← again place other heads]
    refine same place _ ?_
    rw [consumed]
    exact head_append heads

theorem cons (decided : DecidedAt inner ⟨position + 1, rest⟩)
    (same : ∀ place later, run ⟨place, token :: later⟩ = inner ⟨place + 1, later⟩) :
    DecidedAt run ⟨position, token :: rest⟩ := by
  obtain ⟨seen, later, consumed, leaves, again⟩ := decided
  refine ⟨token :: seen, later, congrArg (token :: ·) consumed, ?_, ?_⟩
  · rw [same]
    exact leaves_cons leaves
  · intro place other heads
    have moved : place + 1 - (position + 1) = place - position := by omega
    rw [List.cons_append, same, same, again (place + 1) other heads, moved]

/-- Work that goes on from an answer is decided behind the tokens that were passed. -/
theorem bind {onward : Expr → Cursor → Outcome} (first : DecidedAt run cursor)
    (more : ∀ tree next, run cursor = .ok (tree, next) → DecidedAt (onward tree) next) :
    DecidedAt (fun cursor => (run cursor).bind fun found => onward found.1 found.2) cursor := by
  obtain ⟨seen, later, consumed, leaves, again⟩ := first
  cases outcome : run cursor with
  | error fault =>
      rw [outcome] at leaves again
      refine ⟨seen, later, consumed, ?_, ?_⟩
      · change Leaves cursor.position seen later ((run cursor).bind _)
        rw [outcome]
        exact leaves
      · intro place other heads
        simp only [again place other heads, outcome]
        rfl
  | ok found =>
      obtain ⟨tree, next⟩ := found
      rw [outcome] at leaves again
      cases leaves
      obtain ⟨passed, last, rfl, left, further⟩ := more tree _ outcome
      refine ⟨seen ++ passed, last, by simpa using consumed, ?_, ?_⟩
      · change Leaves cursor.position (seen ++ passed) last ((run cursor).bind _)
        rw [outcome]
        exact leaves_append left
      · intro place other heads
        have behind := again place (passed ++ other) (head_append heads)
        have moved : cursor.position + seen.length + (place - cursor.position) -
            (cursor.position + seen.length) = place - cursor.position := by omega
        have arrived := further (cursor.position + seen.length + (place - cursor.position)) other heads
        rw [moved] at arrived
        simp only [List.append_assoc, behind, outcome, onto, Except.bind]
        exact arrived

theorem shortens (decided : DecidedAt run cursor) {tree : Expr} {next : Cursor}
    (read : run cursor = .ok (tree, next)) : next.rest.length ≤ cursor.rest.length := by
  obtain ⟨seen, later, consumed, leaves, _⟩ := decided
  rw [read] at leaves
  cases leaves
  simp [consumed]

end DecidedAt

def Decided (procedure : Procedure) : Prop :=
  ∀ budget cursor, DecidedAt (procedure budget) cursor

theorem entering_decided {procedure work : Procedure}
    (enters : ∀ budget cursor, procedure budget cursor = budget.enter.bind fun inner => work inner cursor)
    (decided : Decided work) : Decided procedure := by
  intro budget cursor
  rcases enter_cases budget with ⟨out, _⟩ | ⟨inner, entered, _⟩
  · refine .fails .outOfCalls nofun ?_
    intro cursor
    rw [enters, out]
    rfl
  · refine (decided inner cursor).of_head ?_
    intro place other _
    rw [enters, entered]
    rfl

theorem chainFrom_enough (operator? : TokenKind → Option Operator) {operand : Procedure} {budget : Budget}
    (decided : ∀ cursor, DecidedAt (operand budget) cursor) (turns spare : List Token) (left : Expr)
    (position : Int) (rest : List Token) (enough : rest.length ≤ turns.length) (more : rest.length ≤ spare.length) :
    chainFrom operator? operand budget turns left ⟨position, rest⟩ =
      chainFrom operator? operand budget spare left ⟨position, rest⟩ := by
  induction turns generalizing spare left position rest with
  | nil =>
      have ended : rest = [] := List.length_eq_zero_iff.mp (Nat.le_zero.mp enough)
      subst rest
      cases spare <;> rfl
  | cons first turns ih =>
      cases spare with
      | nil =>
          have ended : rest = [] := List.length_eq_zero_iff.mp (Nat.le_zero.mp more)
          subst rest
          rfl
      | cons second spare =>
          cases rest with
          | nil => rfl
          | cons token rest =>
              cases known : operator? token.kind with
              | none => simp only [chainFrom, known]
              | some operator =>
                  rw [chainFrom_turn position token rest known, chainFrom_turn position token rest known]
                  cases read : operand budget ⟨position + 1, rest⟩ with
                  | error fault => rfl
                  | ok found =>
                      obtain ⟨right, next, later⟩ := found
                      have shorter : later.length ≤ rest.length := (decided ⟨position + 1, rest⟩).shortens read
                      simp only [List.length_cons] at enough more
                      exact ih spare (.binary operator left right token.place) next later (by omega) (by omega)

theorem chainFrom_decided (operator? : TokenKind → Option Operator) {operand : Procedure} {budget : Budget}
    (decided : ∀ cursor, DecidedAt (operand budget) cursor) (left : Expr) (cursor : Cursor) :
    DecidedAt (fun cursor => chainFrom operator? operand budget cursor.rest left cursor) cursor := by
  -- Each turn passes its operator, so what is left gets shorter, whatever the operand leaves.
  induction size : cursor.rest.length using Nat.strongRecOn generalizing left cursor with
  | ind size ih =>
      obtain ⟨position, rest⟩ := cursor
      cases rest with
      | nil =>
          exact .stays left fun _ => heads_nil rfl
      | cons token rest =>
          cases known : operator? token.kind with
          | none =>
              refine .stays left ?_
              exact fun _ => heads_cons fun _ => by simp only [chainFrom, known]
          | some operator =>
              let onward : Expr → Cursor → Outcome := fun right next =>
                chainFrom operator? operand budget next.rest (.binary operator left right token.place) next
              have turn : DecidedAt (fun cursor => (operand budget cursor).bind fun found => onward found.1 found.2)
                  ⟨position + 1, rest⟩ := by
                refine (decided ⟨position + 1, rest⟩).bind ?_
                intro right next read
                have shorter : next.rest.length ≤ rest.length := (decided ⟨position + 1, rest⟩).shortens read
                refine ih next.rest.length ?_ _ next rfl
                simp only [List.length_cons] at size
                omega
              refine turn.cons ?_
              intro place later
              rw [chainFrom_turn place token later known]
              cases read : operand budget ⟨place + 1, later⟩ with
              | error fault => rfl
              | ok found =>
                  have shorter := (decided ⟨place + 1, later⟩).shortens read
                  exact chainFrom_enough operator? decided later found.2.rest _ _ found.2.rest shorter (Nat.le_refl _)

theorem chain_decided (operator? : TokenKind → Option Operator) {operand : Procedure} (decided : Decided operand) :
    Decided (chain operator? operand) := by
  refine entering_decided (fun _ _ => rfl) ?_
  intro budget cursor
  let onward : Expr → Cursor → Outcome := fun first next =>
    chainFrom operator? operand budget next.rest first next
  have run : DecidedAt (fun cursor => (operand budget cursor).bind fun found => onward found.1 found.2) cursor :=
    (decided budget cursor).bind fun first next _ => chainFrom_decided operator? (decided budget) first next
  exact run

theorem within_decided {inner : Procedure} (decided : Decided inner) : Decided (within inner) :=
  entering_decided (fun _ _ => rfl) decided

theorem unaryWith_decided (limit : Int) {atom : Procedure} {deeper : Option Procedure} (decided : Decided atom)
    (below : ∀ procedure ∈ deeper, Decided procedure) : Decided (unaryWith limit atom deeper) := by
  refine entering_decided (fun _ _ => rfl) ?_
  rintro budget ⟨position, rest⟩
  cases rest with
  | nil =>
      exact .refuses .missing (fun _ => rfl) (fun _ _ => rfl) fun _ => heads_nil rfl
  | cons token rest =>
      by_cases minus : token.kind = .minus
      · cases deeper with
        | none =>
            refine .refuses (.tooDeep limit) (fun _ => rfl) (fun _ _ => rfl) ?_
            exact fun _ => heads_cons fun _ => by simp only [if_pos minus]
        | some procedure =>
            let negated : Expr → Cursor → Outcome := fun operand next => .ok (.negative operand token.place, next)
            have operand : DecidedAt
                (fun cursor => (procedure budget cursor).bind fun found => negated found.1 found.2)
                ⟨position + 1, rest⟩ :=
              (below procedure rfl budget ⟨position + 1, rest⟩).bind fun operand _ _ =>
                .stays (.negative operand token.place) fun _ _ _ => rfl
            refine operand.cons ?_
            intro place later
            simp only [if_pos minus]
            rfl
      · refine (decided budget ⟨position, token :: rest⟩).of_head ?_
        exact fun _ => heads_cons fun _ => by simp only [if_neg minus]

theorem close_decided (inside : Expr) (cursor : Cursor) : DecidedAt (close inside) cursor := by
  obtain ⟨position, rest⟩ := cursor
  cases rest with
  | nil =>
      exact .refuses .unclosed (fun _ => rfl) (fun _ _ => rfl) fun _ => heads_nil rfl
  | cons token rest =>
      by_cases closes : token.kind = .closeParen
      · have behind : DecidedAt (fun cursor => .ok (inside, cursor)) ⟨position + 1, rest⟩ :=
          .stays inside fun _ _ _ => rfl
        refine behind.cons ?_
        intro place later
        simp only [close, if_pos closes, Cursor.past]
      · refine .refuses (.notClosing token.value) (fun _ => rfl) (fun _ _ => rfl) ?_
        exact fun _ => heads_cons fun _ => by simp only [close, if_neg closes]

theorem atomWith_decided (limit : Int) {deeper : Option Procedure}
    (below : ∀ procedure ∈ deeper, Decided procedure) : Decided (atomWith limit deeper) := by
  refine entering_decided (fun _ _ => rfl) ?_
  rintro budget ⟨position, rest⟩
  cases rest with
  | nil =>
      exact .refuses .missing (fun _ => rfl) (fun _ _ => rfl) fun _ => heads_nil rfl
  | cons token rest =>
      cases kind : token.kind with
      | digit =>
          cases carried : token.value.digit? with
          | none =>
              have behind : DecidedAt (fun _ => .error (.notADigit token.value)) ⟨position + 1, rest⟩ :=
                .fails (.notADigit token.value) nofun fun _ => rfl
              refine behind.cons ?_
              intro place later
              simp only [kind, carried]
          | some value =>
              have behind : DecidedAt (fun cursor => .ok (.digit value token.place, cursor)) ⟨position + 1, rest⟩ :=
                .stays (.digit value token.place) fun _ _ _ => rfl
              refine behind.cons ?_
              intro place later
              simp only [kind, carried, Cursor.past]
      | openParen =>
          cases deeper with
          | none =>
              refine .refuses (.tooDeep limit) (fun _ => rfl) (fun _ _ => rfl) ?_
              exact fun _ => heads_cons fun _ => by simp only [kind]
          | some procedure =>
              have inside : DecidedAt
                  (fun cursor => (procedure budget cursor).bind fun found => close found.1 found.2)
                  ⟨position + 1, rest⟩ :=
                (below procedure rfl budget ⟨position + 1, rest⟩).bind fun tree next _ => close_decided tree next
              refine inside.cons ?_
              intro place later
              simp only [kind, Cursor.past]
              rfl
      | _ =>
          refine .refuses (.unexpected token.value) (fun _ => rfl) (fun _ _ => rfl) ?_
          exact fun _ => heads_cons fun _ => by simp only [kind]

theorem procedure_decided (limit : Int) (level : Level) (room : Nat) : Decided (level.procedure limit room) := by
  induction level, room using procedures_induction with
  | atom room inside =>
      rw [Level.procedure, atom_eq]
      exact atomWith_decided limit (deeper?_all inside)
  | unary room atoms inside =>
      rw [Level.procedure, unary_eq]
      exact unaryWith_decided limit atoms (deeper?_all inside)
  | chain level inner operator? layer room operands =>
      rw [chain_eq layer]
      exact within_decided (chain_decided operator? operands)

/-! The whole of a list of tokens. -/

/-- How an answer stands to the tokens that were passed and to those that were left. -/
def Covers (seen later : List Token) : Except ParseFault Expr → Prop
  | .ok _ => later = []
  | .error (.grammar fault) => fault.position = seen.length
  | .error _ => True

theorem finished_covers {seen later : List Token} {outcome : Outcome} (leaves : Leaves 0 seen later outcome) :
    Covers seen later (finished outcome) := by
  rcases outcome with fault | ⟨tree, next⟩
  · cases fault with
    | grammar fault => exact Eq.trans leaves (Int.zero_add _)
    | _ => trivial
  · cases leaves
    cases later with
    | nil => rfl
    | cons token later => exact Int.zero_add _

theorem finished_onto {later other : List Token} {seen : List Token} {outcome : Outcome}
    (leaves : Leaves 0 seen later outcome) (fault : ParseFault) (failed : finished outcome = .error fault)
    (same : other.head? = later.head?) : finished (onto 0 other outcome) = .error fault := by
  rcases outcome with found | ⟨tree, next⟩
  · cases failed
    exact congrArg Except.error fault.shift_zero
  · cases leaves
    cases later with
    | nil => cases failed
    | cons token later =>
        obtain ⟨tail, rfl⟩ := List.head?_eq_some_iff.mp same
        change Except.error (ParseFault.grammar (.trailing token.value (0 + seen.length + 0))) = _
        rw [Int.add_zero]
        exact failed

/-- A list that is refused is refused for the tokens up to the fault and the one at it, whatever comes after them. -/
theorem whole_local (limit : Int) (tokens : List Token) :
    ∃ seen later, tokens = seen ++ later ∧ Covers seen later (whole limit .unbounded tokens) ∧
      ∀ fault, whole limit .unbounded tokens = .error fault → ∀ other, other.head? = later.head? →
        whole limit .unbounded (seen ++ other) = .error fault := by
  obtain ⟨seen, later, consumed, leaves, again⟩ :=
    procedure_decided limit .expression limit.toNat .unbounded ⟨0, tokens⟩
  refine ⟨seen, later, consumed, finished_covers leaves, ?_⟩
  intro fault failed other same
  exact (congrArg finished (again 0 other same)).trans (finished_onto leaves fault failed same)

theorem covers_unique {seen later first rest : List Token} {answer : Except ParseFault Expr}
    (covers : Covers seen later answer) (again : Covers first rest answer) (same : seen ++ later = first ++ rest)
    (answered : ∀ fault, answer = .error fault → ∃ found, fault = .grammar found) : seen = first ∧ later = rest := by
  have length : seen.length = first.length := by
    rcases answer with fault | tree
    · obtain ⟨found, rfl⟩ := answered fault rfl
      exact Int.ofNat.inj (Eq.trans (Eq.symm covers) again)
    · cases covers
      cases again
      simpa using congrArg List.length same
  exact List.append_inj same length

end DigitCalc.Grammar
