import DigitCalc.Proofs.HigherLimits

/-! Digit tokens that carry no digit. Such a token is as good as any digit token to the grammar, so the list with one
digit, whichever it is, in all of them tells how far reading gets. Reading the list itself goes the same way up to the
first digit token without a digit, and it is that token which fails then, before the grammar can be at fault behind
it. -/
namespace DigitCalc

def SyntaxFault.naming (found : Datum) : SyntaxFault → SyntaxFault
  | .notClosing _ position => .notClosing found position
  | .unexpected _ position => .unexpected found position
  | .trailing _ position => .trailing found position
  | fault => fault

theorem SyntaxFault.naming_position (found : Datum) (fault : SyntaxFault) :
    (fault.naming found).position = fault.position := by
  cases fault <;> rfl

namespace Token

/-- A digit token whose value is no whole number from zero to nine. -/
def Malformed (token : Token) : Prop :=
  token.kind = .digit ∧ ¬ ∃ n : Int, token.value = .int n ∧ 0 ≤ n ∧ n ≤ 9

/-- The token with this digit, if it is a digit token. -/
def filled (digit : Fin 10) (token : Token) : Token :=
  if token.kind = .digit then { token with value := .int digit } else token

theorem malformed_iff (token : Token) : token.Malformed ↔ token.kind = .digit ∧ token.value.digit? = none := by
  unfold Malformed
  refine and_congr_right fun _ => ?_
  cases carried : token.value.digit? with
  | none =>
      refine iff_of_true ?_ rfl
      rintro ⟨n, int, low, high⟩
      have range : 0 ≤ n ∧ n < 10 := by omega
      simp [int, Datum.digit?, range] at carried
  | some digit =>
      refine iff_of_false ?_ (Option.some_ne_none digit)
      exact fun bare => bare ⟨digit, Grammar.digit?_eq_some carried, by omega, by omega⟩

instance (token : Token) : Decidable token.Malformed :=
  decidable_of_iff _ token.malformed_iff.symm

theorem sound_of_kind {token : Token} (other : token.kind ≠ .digit) : ¬ token.Malformed :=
  fun malformed => other malformed.1

section Filled
variable (digit : Fin 10) (token : Token)

theorem filled_kind : (token.filled digit).kind = token.kind := by
  unfold filled
  split <;> rfl

theorem filled_place : (token.filled digit).place = token.place := by
  unfold filled
  split <;> rfl

theorem filled_digit? (kind : token.kind = .digit) : (token.filled digit).value.digit? = some digit := by
  rw [filled, if_pos kind]
  exact Grammar.digit?_int digit

end Filled

end Token

def Expr.filled (digit : Fin 10) : Expr → Expr
  | .digit _ place => .digit digit place
  | .negative operand place => .negative (operand.filled digit) place
  | .binary operator left right place => .binary operator (left.filled digit) (right.filled digit) place

namespace Grammar

def Cursor.filled (digit : Fin 10) (cursor : Cursor) : Cursor :=
  ⟨cursor.position, cursor.rest.map (Token.filled digit)⟩

section Filling
variable {digit : Fin 10}

/-- The two outcomes of one call, at the cursor and at the cursor with its digit tokens filled. They are alike behind
the tokens that are passed, unless one of these is malformed: then the first such token fails, and what comes of the
other call lies behind it. -/
inductive Tracks (digit : Fin 10) : Cursor → Outcome → Outcome → Prop where
  | reads {cursor : Cursor} (tree : Expr) :
      Tracks digit cursor (.ok (tree, cursor)) (.ok (tree.filled digit, cursor.filled digit))
  | refuses {cursor : Cursor} (fault : SyntaxFault) (found : Datum) (here : fault.position = cursor.position) :
      Tracks digit cursor (.error (.grammar (fault.naming found))) (.error (.grammar fault))
  | exhausts {cursor : Cursor} : Tracks digit cursor (.error .outOfCalls) (.error .outOfCalls)
  | blames {position : Int} {token : Token} {rest : List Token} {filled : Outcome} (malformed : token.Malformed)
      (behind : FromOn (position + 1) filled) :
      Tracks digit ⟨position, token :: rest⟩ (.error (.notADigit token.value)) filled
  | passes {position : Int} {token : Token} {rest : List Token} {plain filled : Outcome} (sound : ¬ token.Malformed)
      (later : Tracks digit ⟨position + 1, rest⟩ plain filled) : Tracks digit ⟨position, token :: rest⟩ plain filled

theorem Tracks.bind {cursor : Cursor} {plain filled : Outcome} {onward further : Expr × Cursor → Outcome}
    (first : Tracks digit cursor plain filled)
    (more : ∀ tree next, Tracks digit next (onward (tree, next)) (further (tree.filled digit, next.filled digit)))
    (goes : ∀ tree next, FromOn next.position (further (tree, next))) :
    Tracks digit cursor (plain.bind onward) (filled.bind further) := by
  induction first with
  | reads tree => exact more tree _
  | refuses fault found here => exact .refuses fault found here
  | exhausts => exact .exhausts
  | blames malformed behind => exact .blames malformed (behind.bind goes)
  | passes sound later ih => exact .passes sound ih

def Blind (digit : Fin 10) (procedure : Procedure) : Prop :=
  ∀ budget cursor, Tracks digit cursor (procedure budget cursor) (procedure budget (cursor.filled digit))

theorem entering_blind {procedure work : Procedure}
    (enters : ∀ budget cursor, procedure budget cursor = budget.enter.bind fun inner => work inner cursor)
    (blind : Blind digit work) : Blind digit procedure := by
  intro budget cursor
  rw [enters, enters]
  rcases enter_cases budget with ⟨out, _⟩ | ⟨inner, entered, _⟩
  · rw [out]
    exact .exhausts
  · rw [entered]
    exact blind inner cursor

theorem chainFrom_blind {operator? : TokenKind → Option Operator} (unsigned : operator? .digit = none)
    {operand : Procedure} (blind : Blind digit operand) (advances : Advances operand) (budget : Budget)
    (turns : List Token) (left : Expr) (cursor : Cursor) :
    Tracks digit cursor (chainFrom operator? operand budget turns left cursor)
      (chainFrom operator? operand budget (turns.map (.filled digit)) (left.filled digit) (cursor.filled digit)) := by
  -- A sign is no digit token, so no turn fails before its operand does.
  induction turns generalizing left cursor with
  | nil => exact .reads left
  | cons first turns ih =>
      obtain ⟨position, rest⟩ := cursor
      cases rest with
      | nil => exact .reads left
      | cons token rest =>
          have filled_known : operator? (token.filled digit).kind = operator? token.kind := by
            rw [token.filled_kind digit]
          cases known : operator? token.kind with
          | none =>
              rw [known] at filled_known
              simp only [chainFrom, Cursor.filled, List.map_cons, known, filled_known]
              exact .reads left
          | some operator =>
              rw [known] at filled_known
              have sound : ¬ token.Malformed := by
                refine Token.sound_of_kind ?_
                intro same
                rw [same, unsigned] at known
                cases known
              change Tracks digit _ _ (chainFrom operator? operand budget
                (first.filled digit :: turns.map (.filled digit)) (left.filled digit)
                ⟨position, token.filled digit :: rest.map (.filled digit)⟩)
              rw [chainFrom_turn position token rest known, chainFrom_turn position _ _ filled_known,
                token.filled_place digit]
              refine .passes sound ((blind budget ⟨position + 1, rest⟩).bind (fun right next => ih _ next) ?_)
              exact fun right next => chainFrom_advances operator? advances budget _ _ next

theorem chain_blind {operator? : TokenKind → Option Operator} (unsigned : operator? .digit = none)
    {operand : Procedure} (blind : Blind digit operand) (advances : Advances operand) :
    Blind digit (chain operator? operand) := by
  refine entering_blind (fun _ _ => rfl) ?_
  intro budget cursor
  exact (blind budget cursor).bind
    (fun first next => chainFrom_blind unsigned blind advances budget next.rest first next)
    (fun first next => chainFrom_advances operator? advances budget next.rest first next)

theorem within_blind {inner : Procedure} (blind : Blind digit inner) : Blind digit (within inner) :=
  entering_blind (fun _ _ => rfl) blind

theorem unaryWith_blind (limit : Int) {atom : Procedure} {deeper : Option Procedure} (blind : Blind digit atom)
    (below : ∀ procedure ∈ deeper, Blind digit procedure) : Blind digit (unaryWith limit atom deeper) := by
  refine entering_blind (fun _ _ => rfl) ?_
  rintro budget ⟨position, rest⟩
  cases rest with
  | nil => exact .refuses (.missing position) .absent rfl
  | cons token rest =>
      by_cases minus : token.kind = .minus
      · have filled_minus : (token.filled digit).kind = .minus := by rw [token.filled_kind digit, minus]
        have sound : ¬ token.Malformed := Token.sound_of_kind (by rw [minus]; decide)
        simp only [Cursor.filled, List.map_cons, if_pos minus, if_pos filled_minus]
        cases deeper with
        | none => exact .refuses (.tooDeep limit position) .absent rfl
        | some procedure =>
            rw [token.filled_place digit]
            refine .passes sound ((below procedure rfl budget ⟨position + 1, rest⟩).bind ?_ ?_)
            · exact fun operand next => .reads _
            · exact fun _ _ => Int.le_refl _
      · have filled_minus : ¬ (token.filled digit).kind = .minus := by rwa [token.filled_kind digit]
        simp only [Cursor.filled, List.map_cons, if_neg minus, if_neg filled_minus]
        exact blind budget ⟨position, token :: rest⟩

theorem close_blind (inside : Expr) (cursor : Cursor) :
    Tracks digit cursor (close inside cursor) (close (inside.filled digit) (cursor.filled digit)) := by
  obtain ⟨position, rest⟩ := cursor
  cases rest with
  | nil => exact .refuses (.unclosed position) .absent rfl
  | cons token rest =>
      by_cases closes : token.kind = .closeParen
      · have filled_closes : (token.filled digit).kind = .closeParen := by rw [token.filled_kind digit, closes]
        have sound : ¬ token.Malformed := Token.sound_of_kind (by rw [closes]; decide)
        simp only [close, Cursor.filled, List.map_cons, if_pos closes, if_pos filled_closes]
        exact .passes sound (.reads inside)
      · have filled_closes : ¬ (token.filled digit).kind = .closeParen := by rwa [token.filled_kind digit]
        simp only [close, Cursor.filled, List.map_cons, if_neg closes, if_neg filled_closes]
        exact .refuses (.notClosing _ position) token.value rfl

theorem atomWith_blind (limit : Int) {deeper : Option Procedure} (below : ∀ procedure ∈ deeper, Blind digit procedure) :
    Blind digit (atomWith limit deeper) := by
  refine entering_blind (fun _ _ => rfl) ?_
  rintro budget ⟨position, rest⟩
  cases rest with
  | nil => exact .refuses (.missing position) .absent rfl
  | cons token rest =>
      have filled_kind := token.filled_kind digit
      cases kind : token.kind with
      | digit =>
          have full : (token.filled digit).value.digit? = some digit := token.filled_digit? digit kind
          rw [kind] at filled_kind
          simp only [Cursor.filled, List.map_cons, kind, filled_kind, full, token.filled_place digit]
          -- The filled token is passed in any case, so the other one is passed or blamed.
          cases carried : token.value.digit? with
          | none => exact .blames (token.malformed_iff.mpr ⟨kind, carried⟩) (Int.le_refl _)
          | some digit =>
              have sound : ¬ token.Malformed := by simp [Token.malformed_iff, carried]
              exact .passes sound (.reads (.digit digit token.place))
      | openParen =>
          have sound : ¬ token.Malformed := Token.sound_of_kind (by rw [kind]; decide)
          rw [kind] at filled_kind
          simp only [Cursor.filled, List.map_cons, kind, filled_kind]
          cases deeper with
          | none => exact .refuses (.tooDeep limit position) .absent rfl
          | some procedure =>
              exact .passes sound ((below procedure rfl budget ⟨position + 1, rest⟩).bind close_blind close_advances)
      | _ =>
          rw [kind] at filled_kind
          simp only [Cursor.filled, List.map_cons, kind, filled_kind]
          exact .refuses (.unexpected _ position) token.value rfl

theorem layer_unsigned {level inner : Level} {operator? : TokenKind → Option Operator}
    (layer : Layer level inner operator?) : operator? .digit = none := by
  cases layer <;> rfl

theorem procedure_blind (limit : Int) (level : Level) (room : Nat) : Blind digit (level.procedure limit room) := by
  induction level, room using procedures_induction with
  | atom room inside =>
      rw [Level.procedure, atom_eq]
      exact atomWith_blind limit (deeper?_all inside)
  | unary room atoms inside =>
      rw [Level.procedure, unary_eq]
      exact unaryWith_blind limit atoms (deeper?_all inside)
  | chain level inner operator? layer room operands =>
      rw [chain_eq layer]
      exact within_blind (chain_blind (layer_unsigned layer) operands (procedure_advances limit inner room))

/-! The whole of a list of tokens. -/

/-- How many of the tokens from a place on are read: those before a fault of the grammar, or all of them. -/
def StopsAfter (position : Int) (count stop : Nat) : Except ParseFault Expr → Prop
  | .ok _ => stop = count
  | .error (.grammar fault) => fault.position = position + stop
  | .error _ => False

theorem StopsAfter.step {position : Int} {count stop : Nat} {answer : Except ParseFault Expr}
    (stops : StopsAfter position (count + 1) stop answer) (beyond : Beyond position answer) :
    ∃ less, stop = less + 1 ∧ StopsAfter (position + 1) count less answer := by
  rcases answer with fault | tree
  · cases fault with
    | grammar fault =>
        have place : fault.position = position + stop := stops
        have behind : position < fault.position := beyond
        refine ⟨stop - 1, by omega, ?_⟩
        change fault.position = position + 1 + (stop - 1 : Nat)
        omega
    | _ => exact stops.elim
  · exact ⟨count, stops, rfl⟩

inductive Alike (digit : Fin 10) : Except ParseFault Expr → Except ParseFault Expr → Prop where
  | tree (tree : Expr) : Alike digit (.ok tree) (.ok (tree.filled digit))
  | fault (fault : SyntaxFault) (found : Datum) :
      Alike digit (.error (.grammar (fault.naming found))) (.error (.grammar fault))

theorem Alike.stops {position : Int} {count stop : Nat} {plain filled : Except ParseFault Expr}
    (alike : Alike digit plain filled) (stops : StopsAfter position count stop filled) :
    StopsAfter position count stop plain := by
  cases alike with
  | tree tree => exact stops
  | fault fault found => exact (fault.naming_position found).trans stops

theorem telling_ne_notADigit (fault : SyntaxFault) (value : Datum) :
    telling (.error (.grammar fault) : Except ParseFault Expr) ≠ .error (.notADigit value) := by
  rw [telling_error, ParseFault.told]
  split <;> simp

theorem Alike.told {plain filled : Except ParseFault Expr} (alike : Alike digit plain filled) :
    (¬∃ value, telling plain = .error (.notADigit value)) ∧
      ((∃ tree, telling plain = .ok tree ∧ telling filled = .ok (tree.filled digit)) ∨
        ∃ fault found, telling plain = .error (ParseFault.grammar (fault.naming found)).told ∧
          telling filled = .error (ParseFault.grammar fault).told) := by
  cases alike with
  | tree tree => exact ⟨nofun, Or.inl ⟨tree, rfl, rfl⟩⟩
  | fault fault found =>
      refine ⟨?_, Or.inr ⟨fault, found, rfl, rfl⟩⟩
      rintro ⟨value, refused⟩
      exact telling_ne_notADigit _ value refused

theorem Tracks.fromOn {cursor : Cursor} {plain filled : Outcome} (tracks : Tracks digit cursor plain filled) :
    FromOn cursor.position filled := by
  induction tracks with
  | reads tree => exact Int.le_refl _
  | refuses fault found here => exact Int.le_of_eq here.symm
  | exhausts => trivial
  | blames malformed behind => exact behind.earlier (Int.le_add_one (Int.le_refl _))
  | passes sound later ih => exact ih.earlier (Int.le_add_one (Int.le_refl _))

/-- The first malformed token before the stop decides, and without one the answers are alike. -/
theorem Tracks.decided {cursor : Cursor} {plain filled : Outcome} {stop : Nat}
    (tracks : Tracks digit cursor plain filled)
    (stops : StopsAfter cursor.position cursor.rest.length stop (finished filled)) :
    match (cursor.rest.take stop).find? (·.Malformed) with
    | some token => finished plain = .error (.notADigit token.value)
    | none => Alike digit (finished plain) (finished filled) := by
  -- A token that is passed lies before the stop, since what comes of the filled call lies behind it.
  induction tracks generalizing stop with
  | @reads cursor tree =>
      obtain ⟨position, rest⟩ := cursor
      cases rest with
      | nil =>
          cases stops
          exact .tree tree
      | cons token rest =>
          have place : position = position + stop := stops
          have none : stop = 0 := by omega
          subst none
          exact .fault (.trailing (token.filled digit).value position) token.value
  | refuses fault found here =>
      have place : fault.position = _ + stop := stops
      have none : stop = 0 := by omega
      subst none
      exact .fault fault found
  | exhausts => exact stops.elim
  | blames malformed behind =>
      obtain ⟨less, rfl, _⟩ := stops.step (finished_beyond behind)
      rw [List.take_succ_cons, List.find?_cons_of_pos (by simpa using malformed)]
      rfl
  | passes sound later ih =>
      obtain ⟨less, rfl, further⟩ := stops.step (finished_beyond later.fromOn)
      rw [List.take_succ_cons, List.find?_cons_of_neg (by simpa using sound)]
      exact ih further

theorem filled_carried (tokens : List Token) : DigitsCarried (tokens.map (.filled digit)) := by
  intro token member kind
  obtain ⟨original, _, rfl⟩ := List.mem_map.mp member
  rw [original.filled_kind digit] at kind
  refine ⟨digit, ?_, by omega, by omega⟩
  rw [Token.filled, if_pos kind]

/-- Where digit tokens carry digits, reading stops at the end of the list or at a fault of the grammar. -/
theorem whole_stops {budget : Budget} {limit : Int} {tokens : List Token} (digits : DigitsCarried tokens)
    (answered : whole limit budget tokens ≠ .error .outOfCalls) :
    ∃ stop ≤ tokens.length, StopsAfter 0 tokens.length stop (whole limit budget tokens) := by
  obtain ⟨seen, later, consumed, leaves, _⟩ := procedure_decided limit .expression limit.toNat budget ⟨0, tokens⟩
  have covers : Covers seen later (whole limit budget tokens) := finished_covers leaves
  have length : tokens.length = seen.length + later.length := by
    rw [← List.length_append, ← consumed]
  refine ⟨seen.length, by omega, ?_⟩
  cases outcome : whole limit budget tokens with
  | ok tree =>
      rw [outcome] at covers
      cases covers
      exact length.symm
  | error fault =>
      rcases whole_keeps limit budget tokens with same | ⟨out, _⟩
      · rw [same] at outcome
        obtain ⟨found, rfl⟩ := carried_blames digits (whole_blames limit tokens fault outcome)
        rw [same, outcome] at covers
        exact Eq.trans covers (Int.zero_add _).symm
      · exact absurd out answered

/-- Reading a list ends at a place: behind its last token with a tree, or at a fault there, which goes untold if the
value of the token cannot be written. -/
def EndsAt (tokens : List Token) (stop : Nat) : Except ParseFault Expr → Prop
  | .ok _ => stop = tokens.length
  | .error (.grammar fault) => fault.position = stop
  | .error .untold => Unwritable tokens stop
  | .error _ => False

theorem StopsAfter.told {budget : Budget} {limit : Int} {tokens : List Token} {stop : Nat}
    (stops : StopsAfter 0 tokens.length stop (whole limit budget tokens)) :
    EndsAt tokens stop (telling (whole limit budget tokens)) := by
  have uncounted : whole limit budget tokens = whole limit .unbounded tokens := by
    refine (whole_keeps limit budget tokens).resolve_right ?_
    rintro ⟨out, _⟩
    rwa [out] at stops
  rw [uncounted] at stops ⊢
  cases outcome : whole limit .unbounded tokens with
  | ok tree => rwa [outcome] at stops
  | error fault =>
      rw [outcome] at stops
      cases fault with
      | grammar fault =>
          have place : fault.position = stop := Eq.trans stops (Int.zero_add _)
          change EndsAt tokens stop (.error (ParseFault.grammar fault).told)
          rcases whole_told outcome with told | ⟨untold, unwritable⟩
          · rwa [told]
          · rw [untold]
            rwa [place] at unwritable
      | _ => exact stops.elim

end Filling

def flawedSum : List Token :=
  [⟨.digit, .int 1, ⟨1, 1⟩⟩, ⟨.plus, .text "+", ⟨1, 2⟩⟩, ⟨.digit, .truth true, ⟨1, 3⟩⟩, ⟨.closeParen, .absent, ⟨1, 4⟩⟩]

end Grammar
end DigitCalc
