import DigitCalc.Proofs.CallBudget

/-! The parser accepts exactly the spellings that are nested within its limit. Completeness follows the derivation: a
level reads a spelling of its own and leaves what follows, as long as what follows cannot carry the level's chains on;
a spelling that is nested above the room is refused at a group or a minus sign. A tree is spelled in one way only, so
what is read is what was spelled. -/
namespace DigitCalc.Grammar

/-- What follows cannot carry on a chain of these operators. -/
def Idle (operator? : TokenKind → Option Operator) (rest : List Token) : Prop :=
  ∀ token ∈ rest.head?, operator? token.kind = none

/-- What follows cannot carry on a level, nor the levels inside it. -/
def Stops (rest : List Token) : Level → Prop
  | .atom | .unary => True
  | .term => Idle Operator.multiplicative? rest
  | .expression => Idle Operator.multiplicative? rest ∧ Idle Operator.additive? rest

theorem stops_idle {level inner : Level} {operator? : TokenKind → Option Operator} {rest : List Token}
    (layer : Layer level inner operator?) (stops : Stops rest level) : Idle operator? rest ∧ Stops rest inner := by
  cases layer with
  | expression => exact ⟨stops.2, stops.1⟩
  | term => exact ⟨stops, trivial⟩

theorem sign_stops {level inner : Level} {operator? : TokenKind → Option Operator} {sign : Token} {operator : Operator}
    (layer : Layer level inner operator?) (known : operator? sign.kind = some operator) (rest : List Token) :
    Stops (sign :: rest) inner := by
  cases layer with
  | term => trivial
  | expression =>
      intro token first
      cases first
      cases kind : sign.kind <;> simp_all [Operator.additive?, Operator.multiplicative?]

theorem close_stops {closing : Token} (closes : closing.kind = .closeParen) (rest : List Token) :
    Stops (closing :: rest) .expression := by
  constructor <;> intro token first <;> cases first <;> rw [closes] <;> rfl

theorem turns_stop {level inner : Level} {operator? : TokenKind → Option Operator} {turns : List Turn}
    {rest : List Token} (layer : Layer level inner operator?)
    (signs : ∀ turn ∈ turns, operator? turn.sign.kind = some turn.operator) (stops : Stops rest level) :
    Stops (Turn.spelling turns ++ rest) inner := by
  cases turns with
  | nil => exact (stops_idle layer stops).2
  | cons turn turns =>
      rw [Turn.spelling_cons]
      exact sign_stops layer (signs turn List.mem_cons_self) _

theorem turns_read {limit : Int} {level inner : Level} {operator? : TokenKind → Option Operator} {room : Nat}
    {rest : List Token} (layer : Layer level inner operator?) (stops : Stops rest level) (turns : List Turn)
    (signs : ∀ turn ∈ turns, operator? turn.sign.kind = some turn.operator)
    (operands : ∀ turn ∈ turns, ∀ position rest, Stops rest inner → Reads limit (.level inner) room
      ⟨position, turn.tokens ++ rest⟩ (.ok (turn.tree, ⟨position + turn.tokens.length, rest⟩)))
    (left : Expr) (position : Int) :
    Reads limit (.onward inner operator? left) room ⟨position, Turn.spelling turns ++ rest⟩
      (.ok (Turn.fold left turns, ⟨position + (Turn.spelling turns).length, rest⟩)) := by
  -- What follows a turn is the sign of the next one, or what stops the whole chain; either ends the operand.
  induction turns generalizing left position with
  | nil => simpa [Turn.spelling, Turn.fold] using .stops (stops_idle layer stops).1
  | cons turn turns ih =>
      have later_signs : ∀ turn ∈ turns, operator? turn.sign.kind = some turn.operator := by
        intro turn member
        exact signs turn (List.mem_cons_of_mem _ member)
      have operand := operands turn List.mem_cons_self (position + 1) (Turn.spelling turns ++ rest)
        (turns_stop layer later_signs stops)
      have later := ih later_signs (fun turn member => operands turn (List.mem_cons_of_mem _ member))
        (.binary turn.operator left turn.tree turn.sign.place) (position + 1 + turn.tokens.length)
      have arrived : position + 1 + turn.tokens.length + (Turn.spelling turns).length =
          position + (Turn.spelling (turn :: turns)).length := by
        simp only [Turn.spelling_cons, List.length_cons, List.length_append]
        omega
      rw [arrived] at later
      rw [Turn.spelling_cons, Turn.fold_cons, List.cons_append, List.append_assoc, ← Turn.spelling_cons]
      exact .turn (signs turn List.mem_cons_self) operand later

/-- A spelling that there is room for is read, whatever follows it. -/
theorem spells_read {level : Level} {tokens : List Token} {tree : Expr} {nesting : Nat}
    (spelled : Spells level tokens tree nesting) (limit : Int) {room : Nat} (fits : nesting ≤ room) (position : Int)
    {rest : List Token} (stops : Stops rest level) :
    Reads limit (.level level) room ⟨position, tokens ++ rest⟩ (.ok (tree, ⟨position + tokens.length, rest⟩)) := by
  induction spelled generalizing room position rest with
  | digit kind carried =>
      rename_i token value
      exact .digit kind (by rw [carried]; exact digit?_int value)
  | @group opening closing tokens tree nesting opens inside closes ih =>
      obtain ⟨below, rfl⟩ : ∃ below, room = below + 1 := ⟨room - 1, by omega⟩
      have held := ih (Nat.le_of_succ_le_succ fits) (position + 1) (close_stops closes rest)
      have arrived :
          position + ((opening :: (tokens ++ [closing])).length : Nat) = position + 1 + tokens.length + 1 := by
        simp only [List.length_cons, List.length_append, List.length_nil]
        omega
      rw [arrived, List.cons_append, List.append_assoc]
      exact .group opens held closes
  | plain operand ih =>
      refine .plain ?_ (ih fits position trivial)
      cases operand with
      | digit kind carried => simp [kind]
      | group opens inside closes => simp [opens]
      | chain layer => cases layer
  | @negated sign tokens tree nesting minus operand ih =>
      obtain ⟨below, rfl⟩ : ∃ below, room = below + 1 := ⟨room - 1, by omega⟩
      have read := @ih below (Nat.le_of_succ_le_succ fits) (position + 1) rest trivial
      have arrived : position + ((sign :: tokens).length : Nat) = position + 1 + tokens.length := by
        simp only [List.length_cons]
        omega
      rw [arrived]
      exact .negated minus read
  | @chain level inner operator? layer tokens tree nesting turns first signs operands ih_first ih_operands =>
      have room_for := (Turn.deepest_le_iff nesting room turns).mp fits
      have read := ih_first room_for.1 position (turns_stop layer signs stops)
      have later := turns_read layer stops turns signs
        (fun turn member position rest => ih_operands turn member (room_for.2 turn member) position) tree
        (position + tokens.length)
      have arrived : position + tokens.length + (Turn.spelling turns).length =
          position + ((tokens ++ Turn.spelling turns).length : Nat) := by
        rw [List.length_append]
        omega
      rw [arrived] at later
      rw [List.append_assoc]
      exact .chain layer read later

def ReadsTooDeep (limit : Int) (stage : Stage) (room : Nat) (cursor : Cursor) : Prop :=
  ∃ position, Reads limit stage room cursor (.error (.grammar (.tooDeep limit position)))

theorem turns_tooDeep {limit : Int} {level inner : Level} {operator? : TokenKind → Option Operator} {room : Nat}
    {rest : List Token} (layer : Layer level inner operator?) (stops : Stops rest level) (turns : List Turn)
    (signs : ∀ turn ∈ turns, operator? turn.sign.kind = some turn.operator)
    (operands : ∀ turn ∈ turns, Spells inner turn.tokens turn.tree turn.nesting)
    (refused : ∀ turn ∈ turns, room < turn.nesting → ∀ position rest, Stops rest inner →
      ReadsTooDeep limit (.level inner) room ⟨position, turn.tokens ++ rest⟩)
    (deep : ∃ turn ∈ turns, room < turn.nesting) (left : Expr) (position : Int) :
    ReadsTooDeep limit (.onward inner operator? left) room ⟨position, Turn.spelling turns ++ rest⟩ := by
  induction turns generalizing left position with
  | nil => simp at deep
  | cons turn turns ih =>
      have later_signs : ∀ turn ∈ turns, operator? turn.sign.kind = some turn.operator := by
        intro turn member
        exact signs turn (List.mem_cons_of_mem _ member)
      have ends := turns_stop layer later_signs stops
      rw [Turn.spelling_cons, List.cons_append, List.append_assoc]
      by_cases fits : turn.nesting ≤ room
      · have read := spells_read (operands turn List.mem_cons_self) limit fits (position + 1) ends
        have later_deep : ∃ turn ∈ turns, room < turn.nesting := by
          obtain ⟨last, member, above⟩ := deep
          rcases List.mem_cons.mp member with rfl | member
          · omega
          · exact ⟨last, member, above⟩
        obtain ⟨place, failed⟩ := ih later_signs (fun turn member => operands turn (List.mem_cons_of_mem _ member))
          (fun turn member => refused turn (List.mem_cons_of_mem _ member)) later_deep
          (.binary turn.operator left turn.tree turn.sign.place) (position + 1 + turn.tokens.length)
        exact ⟨place, .turn (signs turn List.mem_cons_self) read failed⟩
      · obtain ⟨place, failed⟩ := refused turn List.mem_cons_self (Nat.lt_of_not_le fits) (position + 1) _ ends
        exact ⟨place, .operandFails (signs turn List.mem_cons_self) failed⟩

/-- A spelling that there is no room for is refused for its nesting and for nothing else. -/
theorem spells_tooDeep {level : Level} {tokens : List Token} {tree : Expr} {nesting : Nat}
    (spelled : Spells level tokens tree nesting) (limit : Int) {room : Nat} (deep : room < nesting) (position : Int)
    {rest : List Token} (stops : Stops rest level) :
    ReadsTooDeep limit (.level level) room ⟨position, tokens ++ rest⟩ := by
  induction spelled generalizing room position rest with
  | digit => omega
  | group opens inside closes ih =>
      rw [List.cons_append, List.append_assoc]
      cases room with
      | zero => exact ⟨position, .groupTooDeep opens⟩
      | succ room =>
          obtain ⟨place, failed⟩ := ih (Nat.lt_of_succ_lt_succ deep) (position + 1) (close_stops closes rest)
          exact ⟨place, .insideFails opens failed⟩
  | plain operand ih =>
      obtain ⟨place, failed⟩ := ih deep position trivial
      refine ⟨place, .plain ?_ failed⟩
      cases operand with
      | digit kind carried => simp [kind]
      | group opens inside closes => simp [opens]
      | chain layer => cases layer
  | negated minus operand ih =>
      cases room with
      | zero => exact ⟨position, .negationTooDeep minus⟩
      | succ room =>
          obtain ⟨place, failed⟩ := ih (Nat.lt_of_succ_lt_succ deep) (position + 1) trivial
          exact ⟨place, .negatedFails minus failed⟩
  | @chain level inner operator? layer tokens tree nesting turns first signs operands ih_first ih_operands =>
      rw [List.append_assoc]
      have ends := turns_stop layer signs stops
      -- The first operand that does not fit is refused, and all operands before it are read.
      by_cases fits : nesting ≤ room
      · have deeper : ∃ turn ∈ turns, room < turn.nesting :=
          ((Turn.lt_deepest_iff nesting room turns).mp deep).resolve_left (Nat.not_lt_of_le fits)
        have read := spells_read first limit fits position ends
        obtain ⟨place, failed⟩ := turns_tooDeep layer stops turns signs operands
          (fun turn member above position rest => ih_operands turn member above position) deeper tree
          (position + tokens.length)
        exact ⟨place, .chain layer read failed⟩
      · obtain ⟨place, failed⟩ := ih_first (Nat.lt_of_not_le fits) position ends
        exact ⟨place, .firstFails layer failed⟩

/-! Faults. Only a digit token that carries no digit is not the fault of the grammar. -/

/-- A fault of the grammar, or the value of a digit token among `tokens` that is no digit. -/
def Blames (tokens : List Token) (fault : ParseFault) : Prop :=
  (∃ found, fault = .grammar found) ∨
    ∃ token ∈ tokens, token.kind = .digit ∧ token.value.digit? = none ∧ fault = .notADigit token.value

theorem blames_mono {tokens more : List Token} {fault : ParseFault} (blames : Blames tokens fault)
    (among : tokens ⊆ more) : Blames more fault := by
  rcases blames with found | ⟨token, member, rest⟩
  · exact Or.inl found
  · exact Or.inr ⟨token, among member, rest⟩

theorem reads_subset {limit : Int} {level : Level} {room : Nat} {cursor next : Cursor} {tree : Expr}
    (reads : Reads limit (.level level) room cursor (.ok (tree, next))) : next.rest ⊆ cursor.rest := by
  obtain ⟨tokens, nesting, spelled, fits, consumed, moved⟩ := reads_sound reads
  rw [consumed]
  exact List.subset_append_right _ _

theorem reads_blames {limit : Int} {stage : Stage} {room : Nat} {cursor : Cursor} {outcome : Outcome}
    (reads : Reads limit stage room cursor outcome) (fault : ParseFault) (failed : outcome = .error fault) :
    Blames cursor.rest fault := by
  induction reads with
  | notADigit kind carried =>
      cases failed
      exact Or.inr ⟨_, List.mem_cons_self, kind, carried, rfl⟩
  | insideFails opens inside ih => exact blames_mono (ih failed) (List.subset_cons_self _ _)
  | plain noSign operand ih => exact ih failed
  | negatedFails minus operand ih => exact blames_mono (ih failed) (List.subset_cons_self _ _)
  | firstFails layer first ih => exact ih failed
  | chain layer first more ih_first ih_more => exact blames_mono (ih_more failed) (reads_subset first)
  | operandFails known operand ih => exact blames_mono (ih failed) (List.subset_cons_self _ _)
  | turn known operand more ih_operand ih_more =>
      exact blames_mono (ih_more failed) (List.Subset.trans (reads_subset operand) (List.subset_cons_self _ _))
  | digit => cases failed
  | group => cases failed
  | negated => cases failed
  | stops => cases failed
  | _ =>
      cases failed
      exact Or.inl ⟨_, rfl⟩

/-- The token with an index from a cursor on, told by its value. -/
def Carries (cursor : Cursor) (position : Int) (value : Datum) : Prop :=
  ∃ seen token later, cursor.rest = seen ++ token :: later ∧ position = cursor.position + seen.length ∧
    token.value = value

theorem carries_here (position : Int) (token : Token) (rest : List Token) :
    Carries ⟨position, token :: rest⟩ position token.value :=
  ⟨[], token, rest, rfl, (Int.add_zero position).symm, rfl⟩

theorem carries_behind {cursor next : Cursor} {passed : List Token} {position : Int} {value : Datum}
    (consumed : cursor.rest = passed ++ next.rest) (moved : next.position = cursor.position + passed.length)
    (carries : Carries next position value) : Carries cursor position value := by
  obtain ⟨seen, token, later, rest, place, carried⟩ := carries
  refine ⟨passed ++ seen, token, later, by rw [consumed, rest, List.append_assoc], ?_, carried⟩
  rw [place, moved, List.length_append]
  omega

theorem carries_next {position place : Int} {token : Token} {rest : List Token} {value : Datum}
    (carries : Carries ⟨position + 1, rest⟩ place value) : Carries ⟨position, token :: rest⟩ place value :=
  @carries_behind ⟨position, token :: rest⟩ ⟨position + 1, rest⟩ [token] place value rfl rfl carries

theorem carries_read {limit place : Int} {level : Level} {room : Nat} {cursor next : Cursor} {tree : Expr}
    {value : Datum} (reads : Reads limit (.level level) room cursor (.ok (tree, next)))
    (carries : Carries next place value) : Carries cursor place value := by
  obtain ⟨tokens, nesting, spelled, fits, consumed, moved⟩ := reads_sound reads
  exact carries_behind consumed moved carries

theorem reads_names {limit : Int} {stage : Stage} {room : Nat} {cursor : Cursor} {outcome : Outcome}
    (reads : Reads limit stage room cursor outcome) {fault : SyntaxFault} {found : Datum}
    (failed : outcome = .error (.grammar fault)) (named : fault.found? = some found) :
    Carries cursor fault.position found := by
  induction reads with
  | @unexpected room position token rest noDigit noGroup =>
      cases failed
      cases named
      exact carries_here position token rest
  | @notClosing room position last token closing rest later tree opens inside other ih =>
      cases failed
      cases named
      exact carries_next (carries_read inside (carries_here last closing later))
  | insideFails opens inside ih => exact carries_next (ih failed)
  | plain noSign operand ih => exact ih failed
  | negatedFails minus operand ih => exact carries_next (ih failed)
  | firstFails layer first ih => exact ih failed
  | chain layer first more ih_first ih_more => exact carries_read first (ih_more failed)
  | operandFails known operand ih => exact carries_next (ih failed)
  | turn known operand more ih_operand ih_more => exact carries_next (carries_read operand (ih_more failed))
  | missing | unclosed | groupTooDeep | negationTooDeep =>
      cases failed
      cases named
  | _ => cases failed

/-! The whole of a list of tokens. -/

def finished (outcome : Outcome) : Except ParseFault Expr :=
  outcome.bind fun found =>
    match found.2.rest with
    | [] => .ok found.1
    | token :: _ => .error (.grammar (.trailing token.value found.2.position))

theorem whole_eq (limit : Int) (budget : Budget) (tokens : List Token) :
    whole limit budget tokens = finished (expression limit limit.toNat budget ⟨0, tokens⟩) := by
  rfl

theorem whole_keeps (limit : Int) (budget : Budget) (tokens : List Token) :
    whole limit budget tokens = whole limit .unbounded tokens ∨
      (whole limit budget tokens = .error .outOfCalls ∧ Short budget (calls limit.toNat .expression)) := by
  rw [whole_eq, whole_eq]
  rcases procedure_keeps limit .expression limit.toNat budget ⟨0, tokens⟩ with same | ⟨out, short⟩
  · exact Or.inl (congrArg finished same)
  · exact Or.inr ⟨congrArg finished out, short⟩

theorem whole_reads {limit : Int} {tokens : List Token} {outcome : Outcome}
    (reads : Reads limit (.level .expression) limit.toNat ⟨0, tokens⟩ outcome) :
    whole limit .unbounded tokens = finished outcome := by
  have result : expression limit limit.toNat .unbounded ⟨0, tokens⟩ = outcome := (reads_iff _ _ _ _ _).mp reads
  rw [whole_eq, result]

theorem whole_call (limit : Int) (tokens : List Token) :
    ∃ outcome, Reads limit (.level .expression) limit.toNat ⟨0, tokens⟩ outcome ∧
      whole limit .unbounded tokens = finished outcome := by
  have reads := procedure_reads limit .expression limit.toNat ⟨0, tokens⟩
  exact ⟨_, reads, whole_reads reads⟩

theorem end_stops : Stops [] .expression := by
  constructor <;> intro token first <;> cases first

theorem whole_ok_iff (limit : Int) (natural : 0 ≤ limit) (tokens : List Token) (tree : Expr) :
    whole limit .unbounded tokens = .ok tree ↔ SpellsWithin limit tokens tree := by
  constructor
  · intro read
    obtain ⟨outcome, reads, same⟩ := whole_call limit tokens
    rw [same] at read
    rcases outcome with fault | ⟨found, position, rest⟩
    · cases read
    · obtain ⟨used, nesting, spelled, fits, consumed, moved⟩ := reads_sound reads
      cases rest with
      | cons token rest => cases read
      | nil =>
          cases read
          have all : tokens = used := by simpa using consumed
          exact ⟨nesting, all ▸ spelled, by omega⟩
  · rintro ⟨nesting, spelled, fits⟩
    have read := spells_read spelled limit (show nesting ≤ limit.toNat by omega) 0 end_stops
    rw [List.append_nil] at read
    exact whole_reads read

theorem whole_tooDeep (limit : Int) {tokens : List Token} {tree : Expr} {nesting : Nat}
    (spelled : Spells .expression tokens tree nesting) (natural : 0 ≤ limit) (deep : limit < nesting) :
    ∃ position, whole limit .unbounded tokens = .error (.grammar (.tooDeep limit position)) := by
  obtain ⟨position, failed⟩ := spells_tooDeep spelled limit (show limit.toNat < nesting by omega) 0 end_stops
  rw [List.append_nil] at failed
  exact ⟨position, whole_reads failed⟩

theorem whole_blames (limit : Int) (tokens : List Token) (fault : ParseFault)
    (failed : whole limit .unbounded tokens = .error fault) : Blames tokens fault := by
  obtain ⟨outcome, reads, same⟩ := whole_call limit tokens
  rw [same] at failed
  rcases outcome with found | ⟨tree, position, rest⟩
  · cases failed
    exact reads_blames reads fault rfl
  · cases rest with
    | nil => cases failed
    | cons token rest =>
        -- A token is left over behind a whole expression.
        cases failed
        exact Or.inl ⟨_, rfl⟩

theorem whole_names {limit : Int} {tokens : List Token} {fault : SyntaxFault} {found : Datum}
    (failed : whole limit .unbounded tokens = .error (.grammar fault)) (named : fault.found? = some found) :
    Carries ⟨0, tokens⟩ fault.position found := by
  obtain ⟨outcome, reads, same⟩ := whole_call limit tokens
  rw [same] at failed
  rcases outcome with cause | ⟨tree, position, rest⟩
  · cases failed
    exact reads_names reads rfl named
  · cases rest with
    | nil => cases failed
    | cons token rest =>
        cases failed
        cases named
        exact carries_read reads (carries_here position token rest)

def Unwritable (tokens : List Token) (position : Int) : Prop :=
  ∃ seen token later, tokens = seen ++ token :: later ∧ position = seen.length ∧ token.value.quoted? = none

/-- A fault of the grammar comes out as it was met, unless it lies at a token whose value cannot be written. -/
theorem whole_told {limit : Int} {tokens : List Token} {fault : SyntaxFault}
    (failed : whole limit .unbounded tokens = .error (.grammar fault)) :
    (ParseFault.grammar fault).told = .grammar fault ∨
      ((ParseFault.grammar fault).told = .untold ∧ Unwritable tokens fault.position) := by
  by_cases unwritten : fault.message? = none
  · obtain ⟨found, named, unwritable⟩ := fault.message?_eq_none.mp unwritten
    obtain ⟨seen, token, later, split, place, rfl⟩ := whole_names failed named
    exact Or.inr ⟨if_pos unwritten, seen, token, later, split, place.trans (Int.zero_add _), unwritable⟩
  · exact Or.inl (if_neg unwritten)

/-- Values that can all be written. -/
def Legible (tokens : List Token) : Prop :=
  ∀ token ∈ tokens, ∃ text, token.value.quoted? = some text

theorem Legible.telling {limit : Int} {tokens : List Token} (legible : Legible tokens) :
    telling (whole limit .unbounded tokens) = whole limit .unbounded tokens := by
  cases outcome : whole limit .unbounded tokens with
  | ok tree => rfl
  | error fault =>
      refine congrArg Except.error ?_
      rcases whole_blames limit tokens fault outcome with ⟨found, rfl⟩ | ⟨token, _, _, _, rfl⟩
      · refine (whole_told outcome).resolve_right ?_
        rintro ⟨_, seen, token, later, split, _, unwritten⟩
        obtain ⟨text, written⟩ := legible token (by simp [split])
        cases unwritten.symm.trans written
      · rfl

theorem whole_answers (limit : Int) (tokens : List Token) : whole limit .unbounded tokens ≠ .error .outOfCalls := by
  intro out
  rcases whole_blames limit tokens .outOfCalls out with ⟨found, grammar⟩ | ⟨token, _, _, _, value⟩
  · cases grammar
  · cases value

theorem spells_unique {tokens : List Token} {tree other : Expr} {m n : Nat}
    (spelled : Spells .expression tokens tree m) (again : Spells .expression tokens other n) :
    tree = other ∧ m = n := by
  -- Were one nesting below the other, it would be a limit that admits the tokens and refuses them.
  have never_below : ∀ {tree other : Expr} {m n : Nat}, Spells .expression tokens tree m →
      Spells .expression tokens other n → ¬ m < n := by
    intro tree other m n shallow deep below
    obtain ⟨position, failed⟩ := whole_tooDeep m deep (by omega) (by omega)
    have read := (whole_ok_iff m (by omega) tokens tree).mpr ⟨m, shallow, Int.le_refl _⟩
    rw [read] at failed
    cases failed
  have level : m = n := Nat.le_antisymm (Nat.le_of_not_lt (never_below again spelled))
    (Nat.le_of_not_lt (never_below spelled again))
  subst n
  have read := (whole_ok_iff m (by omega) tokens tree).mpr ⟨m, spelled, Int.le_refl _⟩
  have read_again := (whole_ok_iff m (by omega) tokens other).mpr ⟨m, again, Int.le_refl _⟩
  exact ⟨Except.ok.inj (read.symm.trans read_again), rfl⟩

theorem ofTokensWith_eq (budget : Budget) {limit : Int} (positive : 1 ≤ limit) (tokens : List Token) :
    Expr.ofTokensWith budget limit tokens = telling (whole limit budget tokens) := by
  simp only [Expr.ofTokensWith, checkLimit, if_neg (show ¬ limit < 1 by omega)]
  rfl

/-- Unless the calls run out, counting them changes nothing. -/
theorem ofTokensWith_uncounted (budget : Budget) {limit : Int} (positive : 1 ≤ limit) (tokens : List Token)
    (answered : Expr.ofTokensWith budget limit tokens ≠ .error .outOfCalls) :
    Expr.ofTokensWith budget limit tokens = telling (whole limit .unbounded tokens) := by
  rw [ofTokensWith_eq budget positive] at answered ⊢
  rcases whole_keeps limit budget tokens with same | ⟨out, _⟩
  · exact congrArg telling same
  · exact absurd ((telling_eq_outOfCalls _).mpr out) answered

theorem ofTokensWith_positive (budget : Budget) {limit : Int} (tokens : List Token)
    (answered : Expr.ofTokensWith budget limit tokens ≠ .error (.noNesting limit)) : 1 ≤ limit := by
  by_cases low : limit < 1
  · refine absurd ?_ answered
    rw [Expr.ofTokensWith, checkLimit, if_pos low]
    rfl
  · omega

theorem ofTokensWith_ok {budget : Budget} {limit : Int} {tokens : List Token} {tree : Expr}
    (read : Expr.ofTokensWith budget limit tokens = .ok tree) :
    1 ≤ limit ∧ whole limit .unbounded tokens = .ok tree ∧ SpellsWithin limit tokens tree := by
  have positive : 1 ≤ limit := ofTokensWith_positive budget tokens (by simp [read])
  have uncounted : whole limit .unbounded tokens = .ok tree := by
    rw [← telling_eq_ok, ← ofTokensWith_uncounted budget positive tokens (by simp [read]), read]
  exact ⟨positive, uncounted, (whole_ok_iff limit (by omega) tokens tree).mp uncounted⟩

def DigitsCarried (tokens : List Token) : Prop :=
  ∀ token ∈ tokens, token.kind = .digit → ∃ n : Int, token.value = .int n ∧ 0 ≤ n ∧ n ≤ 9

theorem carried_blames {tokens : List Token} {fault : ParseFault} (digits : DigitsCarried tokens)
    (blames : Blames tokens fault) : ∃ found, fault = .grammar found := by
  rcases blames with found | ⟨token, member, kind, none, _⟩
  · exact found
  · obtain ⟨n, carried, low, high⟩ := digits token member kind
    have range : 0 ≤ n ∧ n < 10 := by omega
    simp [carried, Datum.digit?, range] at none

theorem whole_unspelled (limit : Int) (natural : 0 ≤ limit) {tokens : List Token} (digits : DigitsCarried tokens)
    (unspelled : ¬ ∃ tree, SpellsWithin limit tokens tree) :
    ∃ fault, whole limit .unbounded tokens = .error (.grammar fault) := by
  cases outcome : whole limit .unbounded tokens with
  | ok tree => exact absurd ⟨tree, (whole_ok_iff limit natural tokens tree).mp outcome⟩ unspelled
  | error fault =>
      obtain ⟨found, rfl⟩ := carried_blames digits (whole_blames limit tokens fault outcome)
      exact ⟨found, rfl⟩

def negatedGroup : List Token :=
  [⟨.minus, .text "-", ⟨1, 1⟩⟩, ⟨.openParen, .text "(", ⟨1, 2⟩⟩, ⟨.digit, .int 8, ⟨1, 3⟩⟩, ⟨.minus, .text "-", ⟨1, 4⟩⟩,
    ⟨.digit, .int 3, ⟨1, 5⟩⟩, ⟨.closeParen, .text ")", ⟨1, 6⟩⟩, ⟨.times, .text "*", ⟨1, 7⟩⟩, ⟨.digit, .int 2, ⟨1, 8⟩⟩]

theorem negatedGroup_carried : DigitsCarried negatedGroup := by
  simp [DigitsCarried, negatedGroup]

end DigitCalc.Grammar
