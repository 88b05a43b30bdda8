import DigitCalc.Expr
import DigitCalc.Stack
import DigitCalc.Window

/-! Expressions read from tokens by four procedures, one for each level of the grammar

    expression = term (("+" | "-") term)*
    term       = unary (("*" | "/") unary)*
    unary      = "-" atom | atom
    atom       = digit | "(" expression ")"

Each starts at a cursor and returns an expression and the cursor after it. A group and a minus sign lie one nesting
level deeper than what surrounds them, and the levels that are left are what the procedures recurse on. They
also keep to a budget of calls that are active at one time, which a caller short of stack can set. -/
namespace DigitCalc

inductive SyntaxFault where
  | missing (position : Int)
  | unclosed (position : Int)
  | notClosing (found : Datum) (position : Int)
  | unexpected (found : Datum) (position : Int)
  | trailing (found : Datum) (position : Int)
  | tooDeep (limit : Int) (position : Int)
  deriving DecidableEq, Repr

namespace SyntaxFault

def position : SyntaxFault → Int
  | .missing position | .unclosed position | .notClosing _ position | .unexpected _ position
  | .trailing _ position | .tooDeep _ position => position

/-- The value of the token that was met, if the message names it. -/
def found? : SyntaxFault → Option Datum
  | .notClosing found _ | .unexpected found _ | .trailing found _ => some found
  | .missing _ | .unclosed _ | .tooDeep _ _ => none

/-- There is no message if it names a value that cannot be written. -/
def message? : SyntaxFault → Option String
  | .missing position => some ("cannot read token at position " ++ toString position)
  | .unclosed position => some ("cannot read token at position " ++ toString position ++ ": expected ')'")
  | .notClosing found _ => found.quoted?.map fun text => "expected ')' but found " ++ text
  | .unexpected found _ =>
      found.quoted?.map fun text => "unexpected token " ++ text ++ ": expected a digit or '('"
  | .trailing found _ =>
      found.quoted?.map fun text => "unexpected token " ++ text ++ " after complete expression"
  | .tooDeep limit _ => some ("expression nested too deeply (limit is " ++ toString limit ++ ")")

def message (fault : SyntaxFault) : String :=
  fault.message?.getD Text.Numeral.refusal

theorem message?_eq_none (fault : SyntaxFault) :
    fault.message? = none ↔ ∃ found, fault.found? = some found ∧ found.quoted? = none := by
  cases fault <;> simp [message?, found?]

end SyntaxFault

/-- Why no expression comes back. `untold` is a fault of the grammar whose message cannot be put together. -/
inductive ParseFault where
  | grammar (fault : SyntaxFault)
  | untold
  | notADigit (value : Datum)
  | outOfCalls
  | misplaced (fault : Misplaced)
  | noNesting (limit : Int)
  deriving DecidableEq, Repr

namespace ParseFault

/-- The fault that is raised when this one is met, since its message is put together first. -/
def told : ParseFault → ParseFault
  | .grammar fault => if fault.message? = none then .untold else .grammar fault
  | fault => fault

theorem told_eq_grammar {fault : ParseFault} {found : SyntaxFault} (same : fault.told = .grammar found) :
    fault = .grammar found := by
  cases fault with
  | grammar met =>
      rw [told] at same
      split at same
      · cases same
      · exact same
  | _ => cases same

theorem told_eq_outOfCalls {fault : ParseFault} : fault.told = .outOfCalls ↔ fault = .outOfCalls := by
  cases fault with
  | grammar met =>
      rw [told]
      split <;> simp
  | _ => simp [told]

example : told (.grammar (.unexpected (.int (Nat.pow 10 4300)) 0)) = .untold := by
  decide +kernel

def message : ParseFault → String
  | .grammar fault => fault.message
  | .untold => Text.Numeral.refusal
  | .notADigit value => Datum.digitRefusal value
  | .outOfCalls => "maximum recursion depth exceeded"
  | .misplaced fault => fault.message "tuple"
  | .noNesting limit =>
      match Text.Numeral.write? limit with
      | some text => "max_depth must be positive, got " ++ text
      | none => Text.Numeral.refusal

end ParseFault

namespace Grammar

/-- How many more calls may be active inside the present one. -/
inductive Budget where
  | unbounded
  | calls (left : Nat)
  deriving DecidableEq, Repr

def Budget.enter : Budget → Except ParseFault Budget
  | .unbounded => .ok .unbounded
  | .calls 0 => .error .outOfCalls
  | .calls (left + 1) => .ok (.calls left)

structure Cursor where
  position : Int
  rest : List Token
  deriving DecidableEq, Repr

def Cursor.openAt (tokens : List Token) (position : Int) : Except ParseFault Cursor :=
  match window tokens position with
  | .error fault => .error (.misplaced fault)
  | .ok rest => .ok ⟨position, rest⟩

def Cursor.past (cursor : Cursor) (rest : List Token) : Cursor :=
  ⟨cursor.position + 1, rest⟩

abbrev Procedure := Budget → Cursor → Except ParseFault (Expr × Cursor)

/-- Operators and operands as long as they go on, folded to the left. Each turn takes at least the operator, so the
tokens at hand when the chain starts are as many turns as it can have. -/
def chainFrom (operator? : TokenKind → Option Operator) (operand : Procedure) (budget : Budget) :
    List Token → Expr → Cursor → Except ParseFault (Expr × Cursor)
  | [], left, cursor => .ok (left, cursor)
  | _ :: turns, left, cursor =>
      match cursor.rest with
      | [] => .ok (left, cursor)
      | token :: rest =>
          match operator? token.kind with
          | none => .ok (left, cursor)
          | some operator =>
              match operand budget (cursor.past rest) with
              | .error fault => .error fault
              | .ok (right, next) =>
                  chainFrom operator? operand budget turns (.binary operator left right token.place) next

def chain (operator? : TokenKind → Option Operator) (operand : Procedure) : Procedure :=
  fun budget cursor => do
    let budget ← budget.enter
    let (first, next) ← operand budget cursor
    chainFrom operator? operand budget next.rest first next

def within (inner : Procedure) : Procedure :=
  fun budget cursor => do inner (← budget.enter) cursor

/-- What follows a minus sign is one level deeper; `deeper` is missing where no level is left. -/
def unaryWith (limit : Int) (atom : Procedure) (deeper : Option Procedure) : Procedure :=
  fun budget cursor => do
    let budget ← budget.enter
    match cursor.rest with
    | [] => .error (.grammar (.missing cursor.position))
    | token :: rest =>
        if token.kind = .minus then
          match deeper with
          | none => .error (.grammar (.tooDeep limit cursor.position))
          | some deeper =>
              let (operand, next) ← deeper budget (cursor.past rest)
              return (.negative operand token.place, next)
        else atom budget cursor

def close (inside : Expr) (cursor : Cursor) : Except ParseFault (Expr × Cursor) :=
  match cursor.rest with
  | [] => .error (.grammar (.unclosed cursor.position))
  | token :: rest =>
      if token.kind = .closeParen then .ok (inside, cursor.past rest)
      else .error (.grammar (.notClosing token.value cursor.position))

def atomWith (limit : Int) (deeper : Option Procedure) : Procedure :=
  fun budget cursor => do
    let budget ← budget.enter
    match cursor.rest with
    | [] => .error (.grammar (.missing cursor.position))
    | token :: rest =>
        match token.kind with
        | .digit =>
            match token.value.digit? with
            | none => .error (.notADigit token.value)
            | some digit => .ok (.digit digit token.place, cursor.past rest)
        | .openParen =>
            match deeper with
            | none => .error (.grammar (.tooDeep limit cursor.position))
            | some deeper =>
                let (inside, next) ← deeper budget (cursor.past rest)
                close inside next
        | _ => .error (.grammar (.unexpected token.value cursor.position))

def termWith (unary : Procedure) : Procedure :=
  within (chain Operator.multiplicative? unary)

def expressionWith (unary : Procedure) : Procedure :=
  within (chain Operator.additive? (termWith unary))

/-- `atom limit room` reads an atom around which `room` more levels may be opened. -/
def atom (limit : Int) : Nat → Procedure
  | 0 => atomWith limit none
  | 1 => atomWith limit (some (expressionWith (unaryWith limit (atom limit 0) none)))
  | room + 2 =>
      atomWith limit
        (some (expressionWith (unaryWith limit (atom limit (room + 1)) (some (atom limit room)))))

def unary (limit : Int) : Nat → Procedure
  | 0 => unaryWith limit (atom limit 0) none
  | room + 1 => unaryWith limit (atom limit (room + 1)) (some (atom limit room))

def term (limit : Int) (room : Nat) : Procedure :=
  termWith (unary limit room)

def expression (limit : Int) (room : Nat) : Procedure :=
  expressionWith (unary limit room)

theorem atom_succ (limit : Int) (room : Nat) :
    atom limit (room + 1) = atomWith limit (some (expression limit room)) := by
  cases room <;> rfl

inductive Level where
  | expression
  | term
  | unary
  | atom
  deriving DecidableEq, Repr

def Level.procedure (limit : Int) (room : Nat) : Level → Procedure
  | .expression => Grammar.expression limit room
  | .term => Grammar.term limit room
  | .unary => Grammar.unary limit room
  | .atom => Grammar.atom limit room

/-- Procedures hand a fault on as they get it, so it is as good to tell it where it comes out as where it is met. -/
def telling {α : Type} (outcome : Except ParseFault α) : Except ParseFault α :=
  outcome.mapError ParseFault.told

@[simp]
theorem telling_ok {α : Type} (value : α) : telling (.ok value) = .ok value := by
  rfl

@[simp]
theorem telling_error {α : Type} (fault : ParseFault) :
    telling (.error fault : Except ParseFault α) = .error fault.told := by
  rfl

theorem telling_eq_ok {α : Type} (outcome : Except ParseFault α) (value : α) :
    telling outcome = .ok value ↔ outcome = .ok value := by
  cases outcome <;> simp

theorem telling_eq_outOfCalls {α : Type} (outcome : Except ParseFault α) :
    telling outcome = .error .outOfCalls ↔ outcome = .error .outOfCalls := by
  cases outcome <;> simp [ParseFault.told_eq_outOfCalls]

theorem telling_grammar {α : Type} {outcome : Except ParseFault α} {fault : SyntaxFault}
    (failed : telling outcome = .error (.grammar fault)) : outcome = .error (.grammar fault) := by
  cases outcome with
  | error met => exact congrArg Except.error (ParseFault.told_eq_grammar (Except.error.inj failed))
  | ok value => cases failed

theorem telling_tooDeep {α : Type} {outcome : Except ParseFault α} {limit position : Int} :
    telling outcome = .error (.grammar (.tooDeep limit position)) ↔
      outcome = .error (.grammar (.tooDeep limit position)) := by
  refine ⟨telling_grammar, ?_⟩
  rintro rfl
  rfl

/-- Reads one level at any place, as if `depth` levels were already open there. -/
def readAt (level : Level) (budget : Budget) (limit : Int) (tokens : List Token) (position depth : Int) :
    Except ParseFault (Expr × Cursor) := do
  telling (level.procedure limit (limit - depth).toNat budget (← Cursor.openAt tokens position))

def peekAt (tokens : List Token) (position : Int) : Except ParseFault (Option Token) := do
  return (← Cursor.openAt tokens position).rest.head?

def expectAt (tokens : List Token) (position : Int) : Except ParseFault Token := do
  match ← peekAt tokens position with
  | none => .error (.grammar (.missing position))
  | some token => .ok token

def whole (limit : Int) (budget : Budget) (tokens : List Token) : Except ParseFault Expr := do
  let (expr, cursor) ← expression limit limit.toNat budget ⟨0, tokens⟩
  match cursor.rest with
  | [] => .ok expr
  | token :: _ => .error (.grammar (.trailing token.value cursor.position))

/-- Without a level to open not even a limit can be kept, so the limit itself is refused. -/
def checkLimit (limit : Int) : Except ParseFault Unit :=
  if limit < 1 then .error (.noNesting limit) else .ok ()

def defaultLimit : Int := 100

/-- Six calls are active for each group and for the text around all groups. -/
def Budget.ofStack (stack : Stack) : Budget :=
  .calls (6 * (stack.groups + 1))

end Grammar

namespace Expr

def ofTokensWith (budget : Grammar.Budget) (limit : Int) (tokens : List Token) : Except ParseFault Expr := do
  Grammar.checkLimit limit
  Grammar.telling (Grammar.whole limit budget tokens)

def ofTokens (stack : Stack) (limit : Int) (tokens : List Token) : Except ParseFault Expr :=
  ofTokensWith (.ofStack stack) limit tokens

end Expr

end DigitCalc
