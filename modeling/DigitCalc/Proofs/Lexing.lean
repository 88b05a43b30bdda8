import DigitCalc.Token.Reader
import Mathlib.Data.Bool.AllAny
import Mathlib.Data.List.TakeWhile

/-! What a reader drains, told character by character. The characters of the alphabet at the front of a text are blanks
or tokens, each with the coordinates that the characters before it lead to; the first character outside the alphabet
is where reading stops. -/
namespace DigitCalc.Reader

def alphabet : List Char := "0123456789+-*/() \t\r\n".toList

def tokenAt? (here : Coordinates) (c : Char) : Option Token :=
  if isBlank c then none else (lexeme? c).map fun (kind, value) => ⟨kind, value, here.place⟩

def tokensFrom (here : Coordinates) : List Char → List Token
  | [] => []
  | c :: rest => (tokenAt? here c).toList ++ tokensFrom (here.past c) rest

/-- What is read of some characters, the first of them at the coordinates given. -/
def reading (here : Coordinates) (chars : List Char) : Except Unrecognized (List Token) × Reader :=
  let known := chars.takeWhile (alphabet.contains ·)
  let there := known.foldl .past here
  match chars.dropWhile (alphabet.contains ·) with
  | [] => (.ok (tokensFrom here known), ⟨[], there⟩)
  | c :: rest => (.error ⟨c, there.place⟩, ⟨c :: rest, there⟩)

theorem tokensFrom_append (here : Coordinates) (first later : List Char) :
    tokensFrom here (first ++ later) = tokensFrom here first ++ tokensFrom (first.foldl .past here) later := by
  induction first generalizing here with
  | nil => rfl
  | cons c rest ih => simp only [List.cons_append, tokensFrom, ih, List.foldl_cons, List.append_assoc]

/-- What single characters stand for as tokens. -/
inductive Signifies : Char → TokenKind → Datum → Prop where
  | digit (value : Fin 10) : Signifies (Nat.digitChar value) .digit (.int value)
  | plus : Signifies '+' .plus (.text "+")
  | minus : Signifies '-' .minus (.text "-")
  | times : Signifies '*' .times (.text "*")
  | division : Signifies '/' .division (.text "/")
  | opening : Signifies '(' .openParen (.text "(")
  | closing : Signifies ')' .closeParen (.text ")")

theorem digitChar_range {c : Char} (low : '0' ≤ c) (high : c ≤ '9') :
    ∃ value : Fin 10, c = Nat.digitChar value ∧ c.toNat - '0'.toNat = value := by
  have range : 48 ≤ c.toNat ∧ c.toNat ≤ 57 := ⟨Char.le_def.mp low, Char.le_def.mp high⟩
  have digits : ∀ value : Fin 10, Char.ofNat (value + 48) = Nat.digitChar value := by decide
  refine ⟨⟨c.toNat - 48, by omega⟩, ?_, rfl⟩
  rw [← digits, Nat.sub_add_cancel range.1, Char.ofNat_toNat]

theorem symbols_signify {c : Char} {kind : TokenKind} (listed : (c, kind) ∈ symbols) :
    Signifies c kind (.text (String.singleton c)) := by
  simp only [symbols, List.mem_cons, Prod.mk.injEq, List.not_mem_nil, or_false] at listed
  rcases listed with ⟨rfl, rfl⟩ | ⟨rfl, rfl⟩ | ⟨rfl, rfl⟩ | ⟨rfl, rfl⟩ | ⟨rfl, rfl⟩ | ⟨rfl, rfl⟩ <;> constructor

theorem lexeme?_iff (c : Char) (kind : TokenKind) (value : Datum) :
    lexeme? c = some (kind, value) ↔ Signifies c kind value := by
  constructor
  · intro known
    unfold lexeme? at known
    split at known
    · next digit =>
        obtain ⟨value, rfl, same⟩ := digitChar_range digit.1 digit.2
        rw [same] at known
        cases known
        exact .digit value
    · obtain ⟨found, looked, same⟩ := Option.map_eq_some_iff.mp known
      obtain ⟨before, after, split, _⟩ := List.lookup_eq_some_iff.mp looked
      cases same
      exact symbols_signify (by simp [split])
  · intro signifies
    cases signifies with
    | digit value =>
        have digits : ∀ value : Fin 10, lexeme? (Nat.digitChar value) = some (.digit, .int value) := by decide
        exact digits value
    | _ => rfl

/-! The alphabet consists of the blanks and of the characters that are tokens. -/

theorem alphabet_of_all {chars : List Char} (all : chars.all (alphabet.contains ·) = true) :
    ∀ c ∈ chars, c ∈ alphabet :=
  fun c member => List.contains_iff_mem.mp (List.all_eq_true.mp all c member)

theorem mem_alphabet_iff (c : Char) : c ∈ alphabet ↔ isBlank c = true ∨ (lexeme? c).isSome = true := by
  constructor
  · intro among
    have all : alphabet.all (fun c => isBlank c || (lexeme? c).isSome) = true := by decide
    simpa using List.all_eq_true.mp all c among
  · rintro (blank | lexeme)
    · exact alphabet_of_all (by decide) c (List.contains_iff_mem.mp blank)
    · obtain ⟨⟨kind, value⟩, known⟩ := Option.isSome_iff_exists.mp lexeme
      cases (lexeme?_iff c kind value).mp known with
      | digit value =>
          have digits : ∀ value : Fin 10, Nat.digitChar value ∈ alphabet := by decide
          exact digits value
      | _ => decide

theorem lexeme?_kind {c : Char} {kind : TokenKind} {value : Datum} (known : lexeme? c = some (kind, value)) :
    kind ≠ .endOfText ∧ (kind = .digit → ∃ n : Int, value = .int n ∧ 0 ≤ n ∧ n ≤ 9) := by
  cases (lexeme?_iff c kind value).mp known with
  | digit value => exact ⟨nofun, fun _ => ⟨value, rfl, by omega, by omega⟩⟩
  | _ => exact ⟨nofun, nofun⟩

/-! One look at the next character. -/

theorem nextToken_end (here : Coordinates) : nextToken ⟨[], here⟩ = (.ok (ending here), ⟨[], here⟩) := by
  rfl

theorem nextToken_blank {here : Coordinates} {c : Char} {rest : List Char} (blank : isBlank c = true) :
    nextToken ⟨c :: rest, here⟩ = nextToken ⟨rest, here.past c⟩ := by
  have same : skipBlanks ⟨c :: rest, here⟩ = skipBlanks ⟨rest, here.past c⟩ := by
    simp [skipBlanks, blank]
  unfold nextToken
  rw [same]

theorem nextToken_lexeme {here : Coordinates} {c : Char} {rest : List Char} {kind : TokenKind} {value : Datum}
    (dark : isBlank c = false) (known : lexeme? c = some (kind, value)) :
    nextToken ⟨c :: rest, here⟩ = (.ok ⟨kind, value, here.place⟩, ⟨rest, here.past c⟩) := by
  simp [nextToken, skipBlanks, dark, known]

theorem nextToken_foreign {here : Coordinates} {c : Char} {rest : List Char} (foreign : c ∉ alphabet) :
    nextToken ⟨c :: rest, here⟩ = (.error ⟨c, here.place⟩, ⟨c :: rest, here⟩) := by
  rw [mem_alphabet_iff, not_or, Bool.not_eq_true, Bool.not_eq_true, Option.isSome_eq_false_iff,
    Option.isNone_iff_eq_none] at foreign
  simp [nextToken, skipBlanks, foreign]

/-! Draining takes all tokens, so it goes on with the next character as it began. -/

theorem drain_eq (reader : Reader) : reader.drain =
    match reader.nextToken with
    | (.error fault, left) => (.error fault, left)
    | (.ok token, left) =>
        if token.kind = .endOfText then (.ok [], left) else (left.drain.1.map (token :: ·), left.drain.2) := by
  rw [drain]
  rcases reader.nextToken with ⟨fault | token, left⟩
  · rfl
  · rfl

theorem reading_cons {here : Coordinates} {c : Char} (rest : List Char) (among : c ∈ alphabet) :
    reading here (c :: rest) =
      ((reading (here.past c) rest).1.map ((tokenAt? here c).toList ++ ·), (reading (here.past c) rest).2) := by
  have known : (c :: rest).takeWhile (alphabet.contains ·) = c :: rest.takeWhile (alphabet.contains ·) := by
    simp [among]
  have left : (c :: rest).dropWhile (alphabet.contains ·) = rest.dropWhile (alphabet.contains ·) := by
    simp [among]
  unfold reading
  rw [known, left]
  cases rest.dropWhile (alphabet.contains ·) <;> rfl

theorem drain_reading (here : Coordinates) (chars : List Char) : drain ⟨chars, here⟩ = reading here chars := by
  induction chars generalizing here with
  | nil =>
      rw [drain_eq, nextToken_end]
      rfl
  | cons c rest ih =>
      by_cases among : c ∈ alphabet
      · rw [reading_cons rest among, ← ih]
        cases blank : isBlank c with
        -- A blank is passed in the same look as what follows it, so draining goes on as if it were not there.
        | true =>
            have token : tokenAt? here c = none := by rw [tokenAt?, if_pos blank]
            rw [drain_eq, nextToken_blank blank, ← drain_eq, token]
            rcases drain ⟨rest, here.past c⟩ with ⟨fault | tokens, left⟩ <;> rfl
        | false =>
            have lexeme : (lexeme? c).isSome = true := by simpa [blank] using (mem_alphabet_iff c).mp among
            obtain ⟨⟨kind, value⟩, known⟩ := Option.isSome_iff_exists.mp lexeme
            have token : tokenAt? here c = some ⟨kind, value, here.place⟩ := by simp [tokenAt?, blank, known]
            rw [drain_eq, nextToken_lexeme blank known, token]
            exact if_neg (lexeme?_kind known).1
      · rw [drain_eq, nextToken_foreign among]
        simp [reading, among]

theorem ofText_reading (source : String) : Token.ofText source = (reading .start source.toList).1 := by
  rw [Token.ofText, start, drain_reading]

theorem reading_known {chars : List Char} (here : Coordinates) (known : ∀ c ∈ chars, c ∈ alphabet) :
    (reading here chars).1 = .ok (tokensFrom here chars) := by
  have holds : ∀ c ∈ chars, alphabet.contains c = true := fun c member => List.contains_iff_mem.mpr (known c member)
  have all := List.takeWhile_eq_self_iff.mpr holds
  have none := List.dropWhile_eq_nil_iff.mpr holds
  rw [reading, all, none]

theorem reading_stopped {before rest : List Char} {c : Char} (here : Coordinates)
    (known : ∀ c ∈ before, c ∈ alphabet) (foreign : c ∉ alphabet) :
    (reading here (before ++ c :: rest)).1 = .error ⟨c, (before.foldl .past here).place⟩ := by
  have holds : ∀ c ∈ before, alphabet.contains c = true := fun c member => List.contains_iff_mem.mpr (known c member)
  have passed : (before ++ c :: rest).takeWhile (alphabet.contains ·) = before := by
    rw [List.takeWhile_append_of_pos holds]
    simp [foreign]
  have left : (before ++ c :: rest).dropWhile (alphabet.contains ·) = c :: rest := by
    rw [List.dropWhile_append_of_pos holds]
    simp [foreign]
  rw [reading, passed, left]

theorem first_foreign {chars : List Char} (foreign : ∃ c ∈ chars, c ∉ alphabet) :
    ∃ before c rest, chars = before ++ c :: rest ∧ (∀ c ∈ before, c ∈ alphabet) ∧ c ∉ alphabet := by
  obtain ⟨c, member, outside⟩ := foreign
  cases left : chars.dropWhile (alphabet.contains ·) with
  | nil => exact absurd (List.contains_iff_mem.mp (List.dropWhile_eq_nil_iff.mp left c member)) outside
  | cons d rest =>
      refine ⟨chars.takeWhile (alphabet.contains ·), d, rest, ?_, ?_, ?_⟩
      · rw [← left, List.takeWhile_append_dropWhile]
      · intro c passed
        exact List.contains_iff_mem.mp (List.mem_takeWhile_imp passed)
      · have stopped := List.head?_dropWhile_not (alphabet.contains ·) chars
        rw [left] at stopped
        simpa using stopped

theorem reading_foreign {chars : List Char} (here : Coordinates) (foreign : ∃ c ∈ chars, c ∉ alphabet) :
    ∃ fault, (reading here chars).1 = .error fault := by
  obtain ⟨before, c, rest, rfl, known, outside⟩ := first_foreign foreign
  exact ⟨_, reading_stopped here known outside⟩

theorem ofText_ok {source : String} {tokens : List Token} (read : Token.ofText source = .ok tokens) :
    (∀ c ∈ source.toList, c ∈ alphabet) ∧ tokens = tokensFrom .start source.toList := by
  rw [ofText_reading] at read
  by_cases known : ∀ c ∈ source.toList, c ∈ alphabet
  · rw [reading_known .start known] at read
    cases read
    exact ⟨known, rfl⟩
  · obtain ⟨fault, stopped⟩ := reading_foreign .start (by simpa using known)
    rw [stopped] at read
    cases read

theorem ofText_error {source : String} {fault : Unrecognized} (stopped : Token.ofText source = .error fault) :
    ∃ c ∈ source.toList, c ∉ alphabet := by
  by_cases known : ∀ c ∈ source.toList, c ∈ alphabet
  · rw [ofText_reading, reading_known .start known] at stopped
    cases stopped
  · simpa using known

theorem tokensFrom_signified {here : Coordinates} {chars : List Char} {token : Token}
    (member : token ∈ tokensFrom here chars) :
    ∃ before c after, chars = before ++ c :: after ∧ Signifies c token.kind token.value ∧
      token.place = (before.foldl .past here).place := by
  induction chars generalizing here with
  | nil => cases member
  | cons c rest ih =>
      rcases List.mem_append.mp member with first | later
      · unfold tokenAt? at first
        split at first
        · cases first
        · cases known : lexeme? c with
          | none => simp [known] at first
          | some lexeme =>
              simp only [known, Option.map_some, Option.toList_some, List.mem_singleton] at first
              subst token
              exact ⟨[], c, rest, rfl, (lexeme?_iff _ _ _).mp known, rfl⟩
      · obtain ⟨before, d, after, rfl, signifies, place⟩ := ih later
        exact ⟨c :: before, d, after, rfl, signifies, place⟩

theorem tokensFrom_digits (here : Coordinates) (chars : List Char) (token : Token)
    (member : token ∈ tokensFrom here chars) (kind : token.kind = .digit) :
    ∃ n : Int, token.value = .int n ∧ 0 ≤ n ∧ n ≤ 9 := by
  obtain ⟨_, c, _, _, signifies, _⟩ := tokensFrom_signified member
  exact (lexeme?_kind ((lexeme?_iff _ _ _).mpr signifies)).2 kind

theorem Signifies.written {c : Char} {kind : TokenKind} {value : Datum} (signifies : Signifies c kind value) :
    (∃ text, value.plain? = some text) ∧ ∃ text, value.quoted? = some text := by
  cases signifies with
  | digit value =>
      have short : Text.Numeral.Short value := @Text.Numeral.short_of_lt value 1 (by decide) (by simp)
      exact ⟨⟨_, Datum.plain?_short short⟩, _, Datum.quoted?_short short⟩
  | _ => exact ⟨⟨_, rfl⟩, _, rfl⟩

theorem tokensFrom_written (here : Coordinates) (chars : List Char) (token : Token)
    (member : token ∈ tokensFrom here chars) :
    (∃ text, token.value.plain? = some text) ∧ ∃ text, token.value.quoted? = some text := by
  obtain ⟨_, c, _, _, signifies, _⟩ := tokensFrom_signified member
  exact signifies.written

end DigitCalc.Reader
