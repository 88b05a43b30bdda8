import DigitCalc.Proofs.Classification
import DigitCalc.Proofs.Positions
import DigitCalc.Proofs.Relocation
import DigitCalc.Proofs.Respelling

/-! Spaces between, before and behind the characters of a text change nothing but places. Two texts with the same other
characters have the same tokens up to their places, and nothing that is made of tokens looks at a place: the two texts
have equal expressions and the same value, or they fail alike, and a fault that the parser finds is the very same one.
-/
namespace DigitCalc

/-- The place that all places are moved to where they are not to count. -/
def Place.merged : Place → Place :=
  fun _ => Coordinates.start.place

namespace Reader

def dark (source : String) : List Char :=
  source.toList.filter (· ∉ spaces)

theorem dark_split {source : String} {before after : List Char} {c : Char}
    (split : source.toList = before ++ c :: after) (visible : c ∉ spaces) :
    dark source = before.filter (· ∉ spaces) ++ c :: after.filter (· ∉ spaces) := by
  rw [dark, split, List.filter_append, List.filter_cons_of_pos (by simpa using visible)]

theorem space_among {c : Char} (space : c ∈ spaces) : c ∈ alphabet :=
  (mem_alphabet_iff c).mpr (Or.inl ((isBlank_iff c).mpr space))

theorem lexical_iff_dark (source : String) : Lexical source ↔ ∀ c ∈ dark source, c ∈ alphabet := by
  constructor
  · intro known c member
    exact known c (List.mem_filter.mp member).1
  · intro known c member
    by_cases space : c ∈ spaces
    · exact space_among space
    · exact known c (List.mem_filter.mpr ⟨member, decide_eq_true space⟩)

theorem tokenAt?_merged (here : Coordinates) (c : Char) :
    (tokenAt? here c).map (Token.relocate .merged) = tokenAt? .start c := by
  unfold tokenAt?
  cases isBlank c with
  | true => rfl
  | false => cases lexeme? c <;> rfl

/-- Apart from their places, the tokens of some characters are those of the ones that are no spaces, each by itself. -/
theorem tokensFrom_merged (here : Coordinates) (chars : List Char) :
    (tokensFrom here chars).map (Token.relocate .merged) = (chars.filter (· ∉ spaces)).filterMap (tokenAt? .start) := by
  induction chars generalizing here with
  | nil => rfl
  | cons c rest ih =>
      rw [tokensFrom, List.map_append, ih, ← Option.toList_map, tokenAt?_merged]
      by_cases space : c ∈ spaces
      · rw [tokenAt?_space .start space, List.filter_cons_of_neg (by simpa using space)]
        rfl
      · rw [List.filter_cons_of_pos (by simpa using space), List.filterMap_cons]
        cases tokenAt? .start c <;> rfl

theorem refused_dark {source : String} {fault : Unrecognized} (stopped : Token.ofText source = .error fault) :
    (dark source).find? (· ∉ alphabet) = some fault.character := by
  obtain ⟨before, c, after, split, known, outside, refused⟩ := ofText_refused (ofText_error stopped)
  cases stopped.symm.trans refused
  have visible : c ∉ spaces := fun space => outside (space_among space)
  have none : (before.filter (· ∉ spaces)).find? (· ∉ alphabet) = none := by
    rw [List.find?_eq_none]
    intro d member
    simpa using known d (List.mem_filter.mp member).1
  rw [dark_split split visible, List.find?_append, none, List.find?_cons_of_pos (by simpa using outside)]
  rfl

end Reader

section Respaced
variable {first second : String} (same : Reader.dark first = Reader.dark second)
include same

theorem ofText_respaced {tokens : List Token} (read : Token.ofText first = .ok tokens) :
    ∃ others, Token.ofText second = .ok others ∧
      others.map (Token.relocate .merged) = tokens.map (Token.relocate .merged) := by
  obtain ⟨known, rfl⟩ := Reader.ofText_ok read
  have again : Lexical second := by
    rw [Reader.lexical_iff_dark, ← same, ← Reader.lexical_iff_dark]
    exact known
  refine ⟨Reader.tokensFrom .start second.toList, ?_, ?_⟩
  · rw [Reader.ofText_reading, Reader.reading_known .start again]
  · rw [Reader.tokensFrom_merged, Reader.tokensFrom_merged]
    exact congrArg _ same.symm

theorem refused_respaced {fault : Unrecognized} (stopped : Token.ofText first = .error fault) :
    ∃ other, Token.ofText second = .error other ∧ other.character = fault.character := by
  have foreign : ¬ Lexical second := by
    rw [Reader.lexical_iff_dark, ← same, ← Reader.lexical_iff_dark]
    simpa [Lexical] using Reader.ofText_error stopped
  obtain ⟨other, refused⟩ := ofText_foreign foreign
  have character := Reader.refused_dark refused
  rw [← same, Reader.refused_dark stopped] at character
  exact ⟨other, refused, (Option.some.inj character).symm⟩

end Respaced

section Moved
variable {stack : Stack} {tokens others : List Token} {tree again : Expr} {limit : Int}

theorem ofTokens_merged (same : others.map (Token.relocate .merged) = tokens.map (Token.relocate .merged)) :
    (Expr.ofTokens stack limit others).map (Expr.relocate .merged) =
      (Expr.ofTokens stack limit tokens).map (Expr.relocate .merged) := by
  rw [Expr.ofTokens, Expr.ofTokens, ← Expr.ofTokensWith_relocate, same, Expr.ofTokensWith_relocate]

theorem ofTokens_moved (same : others.map (Token.relocate .merged) = tokens.map (Token.relocate .merged))
    (parsed : Expr.ofTokens stack limit tokens = .ok tree) :
    ∃ again, Expr.ofTokens stack limit others = .ok again ∧ again.relocate .merged = tree.relocate .merged := by
  have merged := @ofTokens_merged stack _ _ limit same
  rw [parsed] at merged
  cases reread : Expr.ofTokens stack limit others with
  | error fault =>
      rw [reread] at merged
      cases merged
  | ok again =>
      rw [reread] at merged
      exact ⟨again, rfl, Except.ok.inj merged⟩

theorem refused_moved {fault : ParseFault}
    (same : others.map (Token.relocate .merged) = tokens.map (Token.relocate .merged))
    (refused : Expr.ofTokens stack limit tokens = .error fault) : Expr.ofTokens stack limit others = .error fault := by
  have merged := @ofTokens_merged stack _ _ limit same
  rw [refused] at merged
  cases reread : Expr.ofTokens stack limit others with
  | error other =>
      rw [reread] at merged
      exact congrArg _ (Except.error.inj merged)
  | ok again =>
      rw [reread] at merged
      cases merged

theorem evaluate_moved (same : again.relocate .merged = tree.relocate .merged) {value : Int}
    (valued : tree.evaluate = .ok value) : again.evaluate = .ok value := by
  have moved := again.evaluate_relocate .merged
  rw [same, Expr.evaluate_relocate, valued] at moved
  cases outcome : again.evaluate with
  | error fault =>
      rw [outcome] at moved
      cases moved
  | ok other =>
      rw [outcome] at moved
      exact congrArg _ (Except.ok.inj moved).symm

theorem divided_moved (same : again.relocate .merged = tree.relocate .merged) {place : Place}
    (divided : tree.evaluate = .error (.divisionByZero place)) :
    ∃ there, again.evaluate = .error (.divisionByZero there) := by
  cases outcome : again.evaluate with
  | ok value =>
      rw [evaluate_moved same.symm outcome] at divided
      cases divided
  | error fault =>
      obtain ⟨node, _, _, rfl⟩ := Expr.evaluate_refused outcome
      exact ⟨node.place, rfl⟩

end Moved

/-- Failures that differ at most in a place. -/
inductive Failure.Alike : Failure → Failure → Prop where
  | lexical {first second : Unrecognized} (same : first.character = second.character) :
      Alike (.lexical first) (.lexical second)
  | parsing (fault : ParseFault) : Alike (.parsing fault) (.parsing fault)
  | divided (first second : Place) :
      Alike (.evaluation (.divisionByZero first)) (.evaluation (.divisionByZero second))

namespace Failure.Alike
variable {first second : Failure}

theorem message (alike : Alike first second) : first.message = second.message := by
  cases alike with
  | lexical same => exact congrArg (fun c => (Diagnostic.unrecognized (String.singleton c) none none).message) same
  | _ => rfl

theorem origin (alike : Alike first second) :
    first.diagnostic?.map Diagnostic.origin = second.diagnostic?.map Diagnostic.origin := by
  cases alike with
  | lexical same => exact Eq.refl (some Origin.lexer)
  | _ => rfl

theorem parser {fault : ParseFault} (alike : Alike (.parsing fault) second) : second = .parsing fault := by
  cases alike
  rfl

end Failure.Alike

section Calculation
variable {stack : Stack} {first second : String} (same : Reader.dark first = Reader.dark second) {limit : Int}
include same

theorem parsed_respaced {tokens : List Token} {tree : Expr} (read : Token.ofText first = .ok tokens)
    (parsed : Expr.ofTokens stack limit tokens = .ok tree) :
    ∃ others again, Token.ofText second = .ok others ∧ Expr.ofTokens stack limit others = .ok again ∧
      again.relocate .merged = tree.relocate .merged := by
  obtain ⟨others, reread, moved⟩ := ofText_respaced same read
  obtain ⟨again, reparsed, merged⟩ := ofTokens_moved moved parsed
  exact ⟨others, again, reread, reparsed, merged⟩

theorem valued_respaced {value : Int} (valued : calculate stack first limit = .ok value) :
    calculate stack second limit = .ok value := by
  obtain ⟨tokens, tree, read, parsed, outcome⟩ := calculate_valued valued
  obtain ⟨others, again, reread, reparsed, merged⟩ := parsed_respaced same read parsed
  rw [calculate_parsed reread reparsed, evaluate_moved merged outcome]
  rfl

theorem failed_respaced {failure : Failure} (failed : calculate stack first limit = .error failure) :
    ∃ other, calculate stack second limit = .error other ∧ failure.Alike other := by
  rcases calculate_failed failed with ⟨fault, stopped, rfl⟩ | ⟨tokens, fault, read, refused, rfl⟩ |
    ⟨tokens, tree, fault, read, parsed, outcome, rfl⟩
  · obtain ⟨other, again, character⟩ := refused_respaced same stopped
    exact ⟨_, calculate_unread again, .lexical character.symm⟩
  · obtain ⟨others, reread, moved⟩ := ofText_respaced same read
    exact ⟨_, calculate_unparsed reread (refused_moved moved refused), .parsing fault⟩
  · obtain ⟨others, again, reread, reparsed, merged⟩ := parsed_respaced same read parsed
    obtain ⟨node, _, _, rfl⟩ := Expr.evaluate_refused outcome
    obtain ⟨there, divided⟩ := divided_moved merged outcome
    refine ⟨.evaluation (.divisionByZero there), ?_, .divided node.place there⟩
    rw [calculate_parsed reread reparsed, divided]
    rfl

end Calculation

/-- Texts that differ in spaces only are parsed to equal expressions, with the same source and the same outline, or not
at all. They have the same value, or failures of the same class with the same message; a fault of the parser is the same
with its position, and so is a limit of the stack. -/
theorem calculate_respaced (stack : Stack) (first second : String) (limit : Int)
    (same : Reader.dark first = Reader.dark second) :
    (∀ tokens tree, Token.ofText first = .ok tokens → Expr.ofTokens stack limit tokens = .ok tree →
      ∃ others again, Token.ofText second = .ok others ∧ Expr.ofTokens stack limit others = .ok again ∧
        again.same tree = true ∧ again.source = tree.source ∧ again.outline = tree.outline) ∧
    (∀ value, calculate stack first limit = .ok value ↔ calculate stack second limit = .ok value) ∧
    ∀ failure, calculate stack first limit = .error failure →
      ∃ other, calculate stack second limit = .error other ∧ other.message = failure.message ∧
        other.diagnostic?.map Diagnostic.origin = failure.diagnostic?.map Diagnostic.origin ∧
        ∀ fault, failure = .parsing fault → other = .parsing fault := by
  refine ⟨?_, ?_, ?_⟩
  · intro tokens tree read parsed
    obtain ⟨others, again, reread, reparsed, merged⟩ := parsed_respaced same read parsed
    refine ⟨others, again, reread, reparsed, Expr.alike_same (Expr.alike_of_relocate merged), ?_, ?_⟩
    · rw [← again.source_relocate .merged, merged, Expr.source_relocate]
    · rw [← again.outline_relocate .merged, merged, Expr.outline_relocate]
  · intro value
    exact ⟨valued_respaced same, valued_respaced same.symm⟩
  · intro failure failed
    obtain ⟨other, again, alike⟩ := failed_respaced same failed
    refine ⟨other, again, alike.message.symm, alike.origin.symm, ?_⟩
    rintro fault rfl
    exact alike.parser

theorem calculate_respaced_division : Reader.dark "1/0" = Reader.dark " 1\t/\r\n0 " ∧
    ∃ other, calculate .ofCommand " 1\t/\r\n0 " 100 = .error other ∧ other.message = "division by zero" := by
  have same : Reader.dark "1/0" = Reader.dark " 1\t/\r\n0 " := by decide
  have respaced := calculate_respaced .ofCommand "1/0" " 1\t/\r\n0 " 100 same
  obtain ⟨other, failed, message, _⟩ := respaced.2.2 _ (calculate_samples .ofCommand).2
  exact ⟨same, other, failed, message⟩

end DigitCalc
