import DigitCalc.Proofs.Positions
import DigitCalc.Token.Calls

/-! Calls in any order. What a reader still has to say is told by two things: the tokens ahead of it, and the reader it
comes to behind them, at the end of the text or in front of a character outside the alphabet. Looking changes neither, a
call that takes a token takes the first one ahead, and behind the last one the reader stays where it is and answers the
same for good. -/
namespace DigitCalc.Reader

namespace Call

/-- Calls that look, pass blanks or ask for one token; no call for a bare character or for all that is left. -/
def isOrdinary : Call → Bool
  | .next | .rest => false
  | _ => true

def takes : Call → Bool
  | .token | .iterate => true
  | _ => false

end Call

def known (chars : List Char) : List Char :=
  chars.takeWhile (alphabet.contains ·)

def ahead (reader : Reader) : List Token :=
  tokensFrom reader.here (known reader.rest)

/-- The reader behind all tokens. -/
def goal (reader : Reader) : Reader :=
  ⟨reader.rest.dropWhile (alphabet.contains ·), (known reader.rest).foldl .past reader.here⟩

/-! What may come next: nothing, a blank, a token or a character that is none. -/

section Next
variable {here : Coordinates} {c : Char} {rest : List Char} {kind : TokenKind} {value : Datum}

theorem skipBlanks_dark (dark : isBlank c = false) : skipBlanks ⟨c :: rest, here⟩ = ⟨c :: rest, here⟩ := by
  simp [skipBlanks, dark]

theorem goal_known (among : c ∈ alphabet) : goal ⟨c :: rest, here⟩ = goal ⟨rest, here.past c⟩ := by
  simp [goal, known, among]

theorem skipBlanks_blank (blank : isBlank c = true) :
    skipBlanks ⟨c :: rest, here⟩ = skipBlanks ⟨rest, here.past c⟩ := by
  simp [skipBlanks, blank]

theorem ahead_blank (blank : isBlank c = true) : ahead ⟨c :: rest, here⟩ = ahead ⟨rest, here.past c⟩ := by
  have among : c ∈ alphabet := (mem_alphabet_iff c).mpr (Or.inl blank)
  simp [ahead, known, among, tokensFrom, tokenAt?, blank]

theorem goal_blank (blank : isBlank c = true) : goal ⟨c :: rest, here⟩ = goal ⟨rest, here.past c⟩ :=
  goal_known ((mem_alphabet_iff c).mpr (Or.inl blank))

theorem lexeme_among (found : lexeme? c = some (kind, value)) : c ∈ alphabet :=
  (mem_alphabet_iff c).mpr (Or.inr (by simp [found]))

theorem ahead_lexeme (dark : isBlank c = false) (found : lexeme? c = some (kind, value)) :
    ahead ⟨c :: rest, here⟩ = ⟨kind, value, here.place⟩ :: ahead ⟨rest, here.past c⟩ := by
  have among := lexeme_among found
  simp [ahead, known, among, tokensFrom, tokenAt?, dark, found]

theorem foreign_dark (foreign : c ∉ alphabet) : isBlank c = false := by
  rw [mem_alphabet_iff, not_or] at foreign
  simpa using foreign.1

theorem ahead_foreign (foreign : c ∉ alphabet) : ahead ⟨c :: rest, here⟩ = [] := by
  simp [ahead, known, foreign, tokensFrom]

theorem goal_foreign (foreign : c ∉ alphabet) : goal ⟨c :: rest, here⟩ = ⟨c :: rest, here⟩ := by
  simp [goal, known, foreign]

end Next

theorem reader_induction {property : Reader → Prop} (ended : ∀ here, property ⟨[], here⟩)
    (blank : ∀ here c rest, isBlank c = true → property ⟨rest, here.past c⟩ → property ⟨c :: rest, here⟩)
    (lexeme : ∀ here c rest kind value, isBlank c = false → lexeme? c = some (kind, value) →
      property ⟨rest, here.past c⟩ → property ⟨c :: rest, here⟩)
    (foreign : ∀ here c rest, c ∉ alphabet → property ⟨c :: rest, here⟩) (reader : Reader) : property reader := by
  obtain ⟨chars, here⟩ := reader
  induction chars generalizing here with
  | nil => exact ended here
  | cons c rest ih =>
      by_cases among : c ∈ alphabet
      · cases dark : isBlank c with
        | true => exact blank here c rest dark (ih _)
        | false =>
            have some : (lexeme? c).isSome = true := by simpa [dark] using (mem_alphabet_iff c).mp among
            obtain ⟨⟨kind, value⟩, found⟩ := Option.isSome_iff_exists.mp some
            exact lexeme here c rest kind value dark found (ih _)
      · exact foreign here c rest among

/-! One call. -/

theorem skipBlanks_keeps (reader : Reader) :
    reader.skipBlanks.ahead = reader.ahead ∧ reader.skipBlanks.goal = reader.goal ∧
      reader.skipBlanks.nextToken = reader.nextToken := by
  induction reader using reader_induction with
  | ended here => exact ⟨rfl, rfl, rfl⟩
  | blank here c rest blank ih =>
      rw [skipBlanks_blank blank, ahead_blank blank, goal_blank blank, nextToken_blank blank]
      exact ih
  | lexeme here c rest kind value dark found ih =>
      rw [skipBlanks_dark dark]
      exact ⟨rfl, rfl, rfl⟩
  | foreign here c rest outside =>
      rw [skipBlanks_dark (foreign_dark outside)]
      exact ⟨rfl, rfl, rfl⟩

theorem ahead_goal (reader : Reader) : reader.goal.ahead = [] := by
  induction reader using reader_induction with
  | ended here => rfl
  | blank here c rest blank ih =>
      rw [goal_blank blank]
      exact ih
  | lexeme here c rest kind value dark found ih =>
      rw [goal_known (lexeme_among found)]
      exact ih
  | foreign here c rest outside =>
      rw [goal_foreign outside]
      exact ahead_foreign outside

theorem goal_stays (reader : Reader) :
    reader.goal.skipBlanks = reader.goal ∧ reader.goal.nextToken.2 = reader.goal ∧ reader.goal.goal = reader.goal := by
  induction reader using reader_induction with
  | ended here => exact ⟨rfl, rfl, rfl⟩
  | blank here c rest blank ih =>
      rw [goal_blank blank]
      exact ih
  | lexeme here c rest kind value dark found ih =>
      rw [goal_known (lexeme_among found)]
      exact ih
  | foreign here c rest outside =>
      rw [goal_foreign outside, skipBlanks_dark (foreign_dark outside), nextToken_foreign outside, goal_foreign outside]
      exact ⟨rfl, rfl, rfl⟩

theorem nextToken_first {reader : Reader} {token : Token} {more : List Token} (first : reader.ahead = token :: more) :
    ∃ later, reader.nextToken = (.ok token, later) ∧ later.ahead = more ∧ later.goal = reader.goal ∧
      token.kind ≠ .endOfText := by
  induction reader using reader_induction with
  | ended here => cases first
  | blank here c rest blank ih =>
      rw [ahead_blank blank] at first
      rw [nextToken_blank blank, goal_blank blank]
      exact ih first
  | lexeme here c rest kind value dark found ih =>
      cases (ahead_lexeme dark found).symm.trans first
      exact ⟨⟨rest, here.past c⟩, nextToken_lexeme dark found, rfl, (goal_known (lexeme_among found)).symm,
        (lexeme?_kind found).1⟩
  | foreign here c rest outside => cases (ahead_foreign outside).symm.trans first

theorem nextToken_spent {reader : Reader} (none : reader.ahead = []) : reader.nextToken = reader.goal.nextToken := by
  induction reader using reader_induction with
  | ended here => rfl
  | blank here c rest blank ih =>
      rw [ahead_blank blank] at none
      rw [nextToken_blank blank, goal_blank blank]
      exact ih none
  | lexeme here c rest kind value dark found ih => cases (ahead_lexeme dark found).symm.trans none
  | foreign here c rest outside => rw [goal_foreign outside]

section Answers
variable {call : Call} {reader : Reader}

theorem answer_look (ordinary : call.isOrdinary = true) (looks : call.takes = false) (reader : Reader) :
    (reader.answer call).2 = reader ∨ (reader.answer call).2 = reader.skipBlanks := by
  cases call with
  | peek => exact Or.inl rfl
  | atEnd => exact Or.inl rfl
  | skip => exact Or.inr rfl
  | token => cases looks
  | iterate => cases looks
  | next => cases ordinary
  | rest => cases ordinary

theorem answer_keeps (ordinary : call.isOrdinary = true) (looks : call.takes = false) (reader : Reader) :
    (reader.answer call).2.ahead = reader.ahead ∧ (reader.answer call).2.goal = reader.goal ∧
      (reader.answer call).2.nextToken = reader.nextToken := by
  rcases answer_look ordinary looks reader with same | passed
  · rw [same]
    exact ⟨rfl, rfl, rfl⟩
  · rw [passed]
    exact skipBlanks_keeps reader

theorem answer_first (takes : call.takes = true) {token : Token} {more : List Token}
    (first : reader.ahead = token :: more) :
    (reader.answer call).1 = .token token ∧ (reader.answer call).2.ahead = more ∧
      (reader.answer call).2.goal = reader.goal := by
  obtain ⟨later, taken, rest, same, inside⟩ := nextToken_first first
  cases call with
  | token => simp [answer, taken, rest, same]
  | iterate => simp [answer, taken, rest, same, inside]
  | _ => cases takes

theorem answer_later (takes : call.takes = true) (reader : Reader) : (reader.answer call).2 = reader.nextToken.2 := by
  cases call with
  | token =>
      simp only [answer]
      rcases reader.nextToken with ⟨fault | token, later⟩ <;> rfl
  | iterate =>
      simp only [answer]
      rcases reader.nextToken with ⟨fault | token, later⟩ <;> rfl
  | _ => cases takes

theorem answer_spent (takes : call.takes = true) (none : reader.ahead = []) :
    (reader.answer call).1 = (reader.goal.answer call).1 ∧ (reader.answer call).2 = reader.goal := by
  have same := nextToken_spent none
  constructor
  · cases call with
    | token => simp only [answer, same]
    | iterate => simp only [answer, same]
    | _ => cases takes
  · rw [answer_later takes, same]
    exact (goal_stays reader).2.1

theorem answer_goal (ordinary : call.isOrdinary = true) (reader : Reader) :
    (reader.goal.answer call).2 = reader.goal := by
  obtain ⟨skipped, stays, _⟩ := goal_stays reader
  cases takes : call.takes with
  | true => exact (answer_later takes reader.goal).trans stays
  | false =>
      rcases answer_look ordinary takes reader.goal with same | passed
      · exact same
      · exact passed.trans skipped

/-- A call takes the first token ahead, if it takes one and there is one. -/
theorem answer_ahead (ordinary : call.isOrdinary = true) (reader : Reader) :
    (reader.answer call).2.ahead = reader.ahead.drop (if call.takes then 1 else 0) ∧
      (reader.answer call).2.goal = reader.goal := by
  cases takes : call.takes with
  | false => exact ⟨(answer_keeps ordinary takes reader).1, (answer_keeps ordinary takes reader).2.1⟩
  | true =>
      cases first : reader.ahead with
      | nil =>
          rw [(answer_spent takes first).2]
          exact ⟨ahead_goal reader, (goal_stays reader).2.2⟩
      | cons token more => exact (answer_first takes first).2

end Answers

/-! Calls in a row. -/

def after (reader : Reader) (calls : List Call) : Reader :=
  calls.foldl (fun reader call => (reader.answer call).2) reader

section Rows
variable {calls : List Call}

theorem answers_at (reader : Reader) (before : List Call) (call : Call) (later : List Call) :
    (answers reader (before ++ call :: later))[before.length]? =
      some (((reader.after before).answer call).1, ((reader.after before).answer call).2.here) := by
  induction before generalizing reader with
  | nil => rfl
  | cons first before ih => exact ih (reader.answer first).2

theorem after_ahead (ordinary : ∀ call ∈ calls, call.isOrdinary = true) (reader : Reader) :
    (reader.after calls).ahead = reader.ahead.drop (calls.countP Call.takes) ∧
      (reader.after calls).goal = reader.goal := by
  induction calls generalizing reader with
  | nil => exact ⟨rfl, rfl⟩
  | cons call calls ih =>
      obtain ⟨first, rest⟩ := List.forall_mem_cons.mp ordinary
      obtain ⟨ahead, goal⟩ := answer_ahead first reader
      obtain ⟨left, there⟩ := ih rest (reader.answer call).2
      rw [ahead, List.drop_drop, Nat.add_comm, ← List.countP_cons] at left
      exact ⟨left, there.trans goal⟩

theorem after_goal (ordinary : ∀ call ∈ calls, call.isOrdinary = true) (reader : Reader) :
    reader.goal.after calls = reader.goal := by
  induction calls with
  | nil => rfl
  | cons call calls ih =>
      obtain ⟨first, rest⟩ := List.forall_mem_cons.mp ordinary
      change ((reader.goal.answer call).2).after calls = reader.goal
      rw [answer_goal first]
      exact ih rest

theorem after_spent (ordinary : ∀ call ∈ calls, call.isOrdinary = true) {reader : Reader}
    (spent : reader.ahead.length < calls.countP Call.takes) : reader.after calls = reader.goal := by
  induction calls generalizing reader with
  | nil => cases spent
  | cons call calls ih =>
      obtain ⟨first, rest⟩ := List.forall_mem_cons.mp ordinary
      obtain ⟨ahead, goal⟩ := answer_ahead first reader
      rw [List.countP_cons] at spent
      -- Either this call is the one too many, or still fewer tokens are ahead than calls to come.
      by_cases last : call.takes = true ∧ reader.ahead = []
      · change ((reader.answer call).2).after calls = reader.goal
        rw [(answer_spent last.1 last.2).2]
        exact after_goal rest reader
      · rw [← goal]
        apply ih rest
        rw [ahead, List.length_drop]
        cases takes : call.takes with
        | false => simpa [takes] using spent
        | true =>
            have some : 0 < reader.ahead.length := List.length_pos_iff.mpr fun none => last ⟨takes, none⟩
            simp only [takes, if_true] at spent ⊢
            omega

end Rows

/-! From the start of a text. -/

theorem fold_position (here : Coordinates) (chars : List Char) :
    (chars.foldl Coordinates.past here).position = here.position + chars.length := by
  induction chars generalizing here with
  | nil => simp
  | cons c rest ih =>
      have one : (here.past c).position = here.position + 1 := by
        unfold Coordinates.past
        split <;> rfl
      rw [List.foldl_cons, ih, one, List.length_cons]
      omega

theorem known_among {chars : List Char} : ∀ c ∈ known chars, c ∈ alphabet :=
  fun _ member => List.contains_iff_mem.mp (List.mem_takeWhile_imp member)

theorem start_ahead (source : String) :
    Token.ofText (String.ofList (known source.toList)) = .ok (start source).ahead := by
  rw [ofText_reading, String.toList_ofList, reading_known .start known_among]
  rfl

/-- The goal is the end of a text that is all in the alphabet, or its first character that is not. -/
theorem start_goal (source : String) :
    (Token.ofText source = .ok (start source).ahead ∧ (start source).goal.rest = []) ∨
      ∃ fault rest, Token.ofText source = .error fault ∧ fault.place = (start source).goal.here.place ∧
        fault.character ∉ alphabet ∧ (start source).goal.rest = fault.character :: rest := by
  rw [ofText_reading]
  unfold reading
  cases left : source.toList.dropWhile (alphabet.contains ·) with
  | nil => exact Or.inl ⟨rfl, left⟩
  | cons c rest =>
      have stopped := List.head?_dropWhile_not (alphabet.contains ·) source.toList
      rw [left] at stopped
      exact Or.inr ⟨⟨c, _⟩, rest, rfl, rfl, by simpa using stopped, left⟩

/-- What a call that takes a token is told when there is none, at the end of a text or in front of a character outside
the alphabet. -/
inductive Spent (source : String) (there : Coordinates) : Call → Answer → Prop where
  | ended {tokens : List Token} : Token.ofText source = .ok tokens → Spent source there .token (.token (ending there))
  | exhausted {tokens : List Token} : Token.ofText source = .ok tokens → Spent source there .iterate .exhausted
  | refused {fault : Unrecognized} {call : Call} :
      Token.ofText source = .error fault → Spent source there call (.unrecognized fault)

theorem goal_spent (source : String) {call : Call} (takes : call.takes = true) :
    Spent source (start source).goal.here call ((start source).goal.answer call).1 := by
  generalize known : (start source).goal = goal
  obtain ⟨rest, there⟩ := goal
  rcases start_goal source with ⟨read, ended⟩ | ⟨fault, after, refused, place, outside, ended⟩
  · rw [known] at ended
    cases ended
    cases call with
    | token => exact .ended read
    | iterate => exact .exhausted read
    | _ => cases takes
  · rw [known] at place ended
    cases ended
    have stops := @nextToken_foreign there fault.character after outside
    rw [← place] at stops
    cases call with
    | token => simpa [answer, stops] using Spent.refused refused
    | iterate => simpa [answer, stops] using Spent.refused refused
    | _ => cases takes

theorem run_start (source : String) (calls : List Call) : run source .start calls = answers (start source) calls := by
  rw [run, openAt, Coordinates.start, window_zero]
  rfl

section Told
variable {calls : List Call} {call : Call}

theorem told_token (ordinary : ∀ call ∈ calls, call.isOrdinary = true) (takes : call.takes = true) {reader : Reader}
    {token : Token} (found : reader.ahead[calls.countP Call.takes]? = some token) :
    ((reader.after calls).answer call).1 = .token token := by
  obtain ⟨within, same⟩ := List.getElem?_eq_some_iff.mp found
  have first := (after_ahead ordinary reader).1
  rw [List.drop_eq_getElem_cons within, same] at first
  exact (answer_first takes first).1

theorem told_spent (ordinary : ∀ call ∈ calls, call.isOrdinary = true) (takes : call.takes = true) {reader : Reader}
    (none : reader.ahead[calls.countP Call.takes]? = none) :
    (reader.after calls).answer call = ((reader.goal.answer call).1, reader.goal) := by
  obtain ⟨ahead, goal⟩ := after_ahead ordinary reader
  rw [List.drop_eq_nil_of_le (List.getElem?_eq_none_iff.mp none)] at ahead
  obtain ⟨told, stays⟩ := answer_spent takes ahead
  rw [goal] at told stays
  exact Prod.ext told stays

end Told

/-- Calls of `nextToken`, also by iteration, take the tokens of a text one after the other, whatever other calls stand
between them; looking and passing blanks never change what the next one gives. Behind the last token they are told the
same for good, that the text is at its end or that it goes on with a character outside the alphabet, and after the
first such answer no call moves the reader any more. -/
theorem run_interleaved (source : String) (calls : List Call) (ordinary : ∀ call ∈ calls, call.isOrdinary = true) :
    ∃ (tokens : List Token) (there : Coordinates),
      Token.ofText (String.ofList (known source.toList)) = .ok tokens ∧
      there.position = (known source.toList).length ∧ there.place = placeAfter (known source.toList) ∧
      (Token.ofText source = .ok tokens ∨
        ∃ fault rest, Token.ofText source = .error fault ∧ fault.place = there.place ∧
          source.toList = known source.toList ++ fault.character :: rest) ∧
      (∀ (reader : Reader) (call : Call), call.isOrdinary = true → call.takes = false →
        (reader.answer call).2.nextToken = reader.nextToken) ∧
      ∀ before call later, calls = before ++ call :: later →
        ∃ answer here, (run source .start calls)[before.length]? = some (answer, here) ∧
          (call.takes = true → ∀ token, tokens[before.countP Call.takes]? = some token → answer = .token token) ∧
          (call.takes = true → tokens[before.countP Call.takes]? = none →
            Spent source there call answer ∧ here = there) ∧
          (tokens.length < before.countP Call.takes → here = there) := by
  refine ⟨(start source).ahead, (start source).goal.here, start_ahead source, ?_, fold_place _, ?_, ?_, ?_⟩
  · exact (fold_position .start (known source.toList)).trans (Int.zero_add _)
  · rcases start_goal source with ⟨read, _⟩ | ⟨fault, rest, refused, place, _, left⟩
    · exact Or.inl read
    · refine Or.inr ⟨fault, rest, refused, place, ?_⟩
      rw [← left]
      exact List.takeWhile_append_dropWhile.symm
  · intro reader call ordinary looks
    exact (answer_keeps ordinary looks reader).2.2
  · rintro before call later rfl
    obtain ⟨passed, rest⟩ := List.forall_mem_append.mp ordinary
    refine ⟨_, _, by rw [run_start]; exact answers_at (start source) before call later, ?_, ?_, ?_⟩
    · intro takes token found
      exact told_token passed takes found
    · intro takes none
      rw [told_spent passed takes none]
      exact ⟨goal_spent source takes, rfl⟩
    · intro spent
      rw [after_spent passed spent, answer_goal (List.forall_mem_cons.mp rest).1]

theorem run_interleaved_foreign :
    (∀ call ∈ [Call.peek, .token, .skip, .token, .atEnd, .iterate], call.isOrdinary = true) ∧
      (run "1 a" .start [.peek, .token, .skip, .token, .atEnd, .iterate])[5]? =
        some (.unrecognized ⟨'a', ⟨1, 3⟩⟩, ⟨2, 1, 3⟩) := by
  have ordinary : ∀ call ∈ [Call.peek, .token, .skip, .token, .atEnd, .iterate], call.isOrdinary = true := by decide
  have one : Token.ofText (String.ofList (known "1 a".toList)) = .ok [⟨.digit, .int 1, ⟨1, 1⟩⟩] := by
    rw [ofText_reading]
    decide
  have refused : Token.ofText "1 a" = .error ⟨'a', ⟨1, 3⟩⟩ := by
    rw [ofText_reading]
    decide
  obtain ⟨tokens, ⟨position, line, column⟩, read, far, place, _, _, told⟩ := run_interleaved "1 a" _ ordinary
  cases one.symm.trans read
  obtain ⟨answer, here, found, _, spent, _⟩ := told [.peek, .token, .skip, .token, .atEnd] .iterate [] rfl
  obtain ⟨given, same⟩ := spent rfl rfl
  refine ⟨ordinary, found.trans ?_⟩
  cases given with
  | exhausted read => cases refused.symm.trans read
  | refused stopped =>
      cases refused.symm.trans stopped
      cases same
      cases far
      cases place
      rfl

end DigitCalc.Reader
