import DigitCalc.Failure
import DigitCalc.Proofs.Lexing
import Mathlib.Data.List.Induction

/-! Where the tokens of a text and a character that is none stand. Their places are counted over the characters before
them: one line for each line feed, and one column for each character behind the last of them. No other character
starts a line, a carriage return no more than a letter. -/
namespace DigitCalc

/-- The place behind the characters that a text starts with. -/
def placeAfter (before : List Char) : Place :=
  ⟨1 + before.count '\n', 1 + (before.reverse.takeWhile (· ≠ '\n')).length⟩

theorem past_place (here : Coordinates) (before : List Char) (c : Char) (same : here.place = placeAfter before) :
    (here.past c).place = placeAfter (before ++ [c]) := by
  obtain ⟨position, line, column⟩ := here
  cases same
  by_cases feed : c = '\n'
  · simp [Coordinates.past, Coordinates.place, placeAfter, feed, Int.add_assoc]
  · simp [Coordinates.past, Coordinates.place, placeAfter, feed, Int.add_assoc]

theorem fold_place (before : List Char) :
    (before.foldl Coordinates.past Coordinates.start).place = placeAfter before := by
  induction before using List.reverseRecOn with
  | nil => rfl
  | append_singleton before c ih =>
      rw [List.foldl_append]
      exact past_place _ before c ih

theorem placeAfter_further {before more : List Char} (same : placeAfter (before ++ more) = placeAfter before) :
    more = [] := by
  have feeds := congrArg Place.line same
  have column := congrArg Place.column same
  simp only [placeAfter, List.count_append, List.reverse_append] at feeds column
  have unfed : '\n' ∉ more := List.count_eq_zero.mp (by omega)
  have passed : ∀ c ∈ more.reverse, decide (c ≠ '\n') = true := by
    intro c member
    rw [decide_eq_true_eq]
    rintro rfl
    exact unfed (List.mem_reverse.mp member)
  rw [List.takeWhile_append_of_pos passed, List.length_append, List.length_reverse] at column
  exact List.eq_nil_of_length_eq_zero (by omega)

theorem placeAfter_injective {first second rest more : List Char} (text : first ++ rest = second ++ more)
    (same : placeAfter first = placeAfter second) : first = second := by
  rcases List.append_eq_append_iff.mp text with ⟨between, rfl, _⟩ | ⟨between, rfl, _⟩
  · rw [placeAfter_further same.symm, List.append_nil]
  · rw [placeAfter_further same, List.append_nil]

namespace Reader

def spaces : List Char := " \t\r\n".toList

theorem isBlank_iff (c : Char) : isBlank c = true ↔ c ∈ spaces :=
  List.contains_iff_mem

theorem tokenAt?_space {c : Char} (here : Coordinates) (space : c ∈ spaces) : tokenAt? here c = none :=
  if_pos ((isBlank_iff c).mpr space)

theorem tokenAt?_dark {c : Char} (here : Coordinates) (among : c ∈ alphabet) (dark : c ∉ spaces) :
    ∃ token, tokenAt? here c = some token ∧ Signifies c token.kind token.value ∧ token.place = here.place := by
  rw [← isBlank_iff] at dark
  have lexeme : (lexeme? c).isSome = true := ((mem_alphabet_iff c).mp among).resolve_left dark
  obtain ⟨⟨kind, value⟩, known⟩ := Option.isSome_iff_exists.mp lexeme
  exact ⟨⟨kind, value, here.place⟩, by simp [tokenAt?, dark, known], (lexeme?_iff c kind value).mp known, rfl⟩

theorem tokensFrom_length {chars : List Char} (here : Coordinates) (known : ∀ c ∈ chars, c ∈ alphabet) :
    (tokensFrom here chars).length = chars.countP (· ∉ spaces) := by
  induction chars generalizing here with
  | nil => rfl
  | cons c rest ih =>
      obtain ⟨among, later⟩ := List.forall_mem_cons.mp known
      rw [tokensFrom, List.length_append, ih (here.past c) later, List.countP_cons, Nat.add_comm]
      by_cases space : c ∈ spaces
      · simp [tokenAt?_space here space, space]
      · obtain ⟨token, found, _⟩ := tokenAt?_dark here among space
        simp [found, space]

/-- A character that is no space is the token whose number is that of such characters before it. -/
theorem tokensFrom_at {before after : List Char} {c : Char} (known : ∀ d ∈ before, d ∈ alphabet) (among : c ∈ alphabet)
    (dark : c ∉ spaces) :
    ∃ token, (tokensFrom .start (before ++ c :: after))[before.countP (· ∉ spaces)]? = some token ∧
      Signifies c token.kind token.value ∧ token.place = placeAfter before := by
  obtain ⟨token, found, signifies, place⟩ := tokenAt?_dark (before.foldl .past .start) among dark
  refine ⟨token, ?_, signifies, by rw [place, fold_place]⟩
  rw [tokensFrom_append, tokensFrom, found, ← tokensFrom_length .start known]
  simp

theorem ofText_refused {source : String} (foreign : ∃ c ∈ source.toList, c ∉ alphabet) :
    ∃ before c after, source.toList = before ++ c :: after ∧ (∀ d ∈ before, d ∈ alphabet) ∧ c ∉ alphabet ∧
      Token.ofText source = .error ⟨c, placeAfter before⟩ := by
  obtain ⟨before, c, after, split, known, outside⟩ := first_foreign foreign
  refine ⟨before, c, after, split, known, outside, ?_⟩
  rw [ofText_reading, split, reading_stopped .start known outside, fold_place]

end Reader

/-- A text in the alphabet has one token for each character that is no space, at the place that is counted over the
characters before it. Any other text is refused for the first character that is not in the alphabet, at its place. -/
theorem ofText_exact (source : String) :
    ((∀ c ∈ source.toList, c ∈ Reader.alphabet) →
      ∃ tokens, Token.ofText source = .ok tokens ∧
        tokens.length = source.toList.countP (· ∉ Reader.spaces) ∧
        (∀ token ∈ tokens, token.kind ≠ .endOfText) ∧
        ∀ before c after, source.toList = before ++ c :: after → c ∉ Reader.spaces →
          ∃ token, tokens[before.countP (· ∉ Reader.spaces)]? = some token ∧
            Reader.Signifies c token.kind token.value ∧ token.place = placeAfter before) ∧
    ((∃ c ∈ source.toList, c ∉ Reader.alphabet) →
      ∃ before c after, source.toList = before ++ c :: after ∧ (∀ d ∈ before, d ∈ Reader.alphabet) ∧
        c ∉ Reader.alphabet ∧ Token.ofText source = .error ⟨c, placeAfter before⟩ ∧
        (Failure.lexical ⟨c, placeAfter before⟩).diagnostic? = some
          (.unrecognized (String.singleton c) (some (placeAfter before).column) (some (placeAfter before).line))) := by
  constructor
  · intro known
    refine ⟨Reader.tokensFrom .start source.toList, ?_, Reader.tokensFrom_length .start known, ?_, ?_⟩
    · rw [Reader.ofText_reading, Reader.reading_known .start known]
    · intro token member
      obtain ⟨_, c, _, _, signifies, _⟩ := Reader.tokensFrom_signified member
      exact (Reader.lexeme?_kind ((Reader.lexeme?_iff _ _ _).mpr signifies)).1
    · intro before c after split dark
      rw [split] at known ⊢
      obtain ⟨passed, rest⟩ := List.forall_mem_append.mp known
      exact Reader.tokensFrom_at passed (rest c List.mem_cons_self) dark
  · intro foreign
    obtain ⟨before, c, after, split, known, outside, refused⟩ := Reader.ofText_refused foreign
    exact ⟨before, c, after, split, known, outside, refused, rfl⟩

end DigitCalc
