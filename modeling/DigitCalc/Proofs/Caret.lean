import DigitCalc.Proofs.Classification
import DigitCalc.Proofs.Lines
import DigitCalc.Proofs.Traversal

/-! The caret that is drawn for a calculation, and the character it is drawn for: the one that the lexer refused, or the
sign of the division that failed. -/
namespace DigitCalc

/-- The character that a failure is about, and the characters before it. -/
inductive Culprit (source : String) : Failure → List Char → Char → Prop where
  | foreign {before after : List Char} {c : Char} (split : source.toList = before ++ c :: after) :
      Culprit source (.lexical ⟨c, placeAfter before⟩) before c
  | division {before after : List Char} (split : source.toList = before ++ '/' :: after) :
      Culprit source (.evaluation (.divisionByZero (placeAfter before))) before '/'

theorem divided_culprit {stack : Stack} {source : String} {limit : Int} {tokens : List Token} {tree : Expr}
    {fault : EvalFault}
    (read : Token.ofText source = .ok tokens) (parsed : Expr.ofTokens stack limit tokens = .ok tree)
    (failed : tree.evaluate = .error fault) :
    ∃ before, Culprit source (.evaluation fault) before '/' ∧ ∀ d ∈ before, d ∈ Reader.alphabet := by
  obtain ⟨_, _, nesting, spelled, _⟩ := Grammar.ofTokensWith_ok parsed
  obtain ⟨node, member, divides, rfl⟩ := Expr.evaluate_refused failed
  obtain ⟨⟨kind, value, there⟩, written, made⟩ := Grammar.spells_made spelled member
  obtain ⟨known, rfl⟩ := Reader.ofText_ok read
  obtain ⟨before, c, after, split, signifies, place⟩ := Reader.tokensFrom_signified written
  have sign : node.kind = .binary .div := by
    cases node with
    | binary operator => cases operator <;> first | rfl | cases divides
    | _ => cases divides
  have role : Role kind (.binary .div) := sign ▸ made.role
  cases role
  cases signifies
  have there : node.place = placeAfter before := by rw [made.place, place, fold_place]
  rw [there]
  refine ⟨before, .division split, ?_⟩
  intro d member
  exact known d (by simp [split, member])

theorem calculate_culprit {stack : Stack} {source : String} {limit : Int} {failure : Failure} {diagnostic : Diagnostic}
    (failed : calculate stack source limit = .error failure) (reported : failure.diagnostic? = some diagnostic)
    (columned : diagnostic.origin ≠ .parser) :
    ∃ before c, Culprit source failure before c ∧ ∀ d ∈ before, d ∈ Reader.alphabet := by
  rcases calculate_failed failed with ⟨fault, stopped, rfl⟩ | ⟨_, fault, _, _, rfl⟩ |
    ⟨tokens, tree, fault, read, parsed, refused, rfl⟩
  · obtain ⟨before, c, after, split, known, outside, refused⟩ := Reader.ofText_refused (Reader.ofText_error stopped)
    rw [refused] at stopped
    cases stopped
    exact ⟨before, c, .foreign split, known⟩
  · cases fault with
    | grammar fault =>
        cases reported
        exact absurd rfl columned
    | _ => cases reported
  · obtain ⟨before, culprit, known⟩ := divided_culprit read parsed refused
    exact ⟨before, '/', culprit, known⟩

namespace Culprit
variable {source line : String} {failure : Failure} {before : List Char} {c : Char} {diagnostic : Diagnostic}

theorem split (culprit : Culprit source failure before c) : ∃ after, source.toList = before ++ c :: after := by
  cases culprit with
  | foreign split => exact ⟨_, split⟩
  | division split => exact ⟨_, split⟩

theorem reported (culprit : Culprit source failure before c) (reported : failure.diagnostic? = some diagnostic) :
    diagnostic.position = some (placeAfter before).column ∧ diagnostic.line = some (placeAfter before).line := by
  have column : (placeAfter before).column ≠ 0 := by
    simp only [placeAfter]
    omega
  have line : (placeAfter before).line ≠ 0 := by
    simp only [placeAfter]
    omega
  cases culprit with
  | foreign =>
      cases reported
      exact ⟨rfl, rfl⟩
  | division =>
      cases reported
      exact ⟨if_neg column, if_neg line⟩

end Culprit

/-- What is wrong with a calculation can always be drawn, since columns of a text count from one. -/
theorem calculate_drawable {stack : Stack} {source : String} {limit : Int} {failure : Failure}
    {diagnostic : Diagnostic} (failed : calculate stack source limit = .error failure)
    (reported : failure.diagnostic? = some diagnostic) :
    diagnostic.draw? source = some (diagnostic.render source) := by
  refine if_pos ?_
  unfold Diagnostic.isDrawable
  cases drawn : diagnostic.shown? source with
  | none => rfl
  | some found =>
      obtain ⟨columned, position, _⟩ := Diagnostic.shown?_some drawn
      obtain ⟨before, c, culprit, _⟩ := calculate_culprit failed reported columned
      have column : found.2 = (placeAfter before).column :=
        Option.some.inj (position.symm.trans (culprit.reported reported).1)
      simp only [column, placeAfter, Index.least, decide_eq_true_eq]
      omega

/-- A caret that is drawn for a calculation stands at the column that its culprit has in the text. It stands under the
culprit in the line that is shown, if each carriage return before the culprit that has a line feed behind it, still
before the culprit, has it directly behind it. -/
theorem calculate_caret (stack : Stack) (source : String) (limit : Int) (failure : Failure) (diagnostic : Diagnostic)
    (line : String)
    (column : Int) (failed : calculate stack source limit = .error failure)
    (reported : failure.diagnostic? = some diagnostic) (drawn : diagnostic.shown? source = some (line, column)) :
    diagnostic.draw? source = some (diagnostic.header ++ Diagnostic.underlined line column) ∧
    ∃ before c, Culprit source failure before c ∧ column = (placeAfter before).column ∧
      (Text.Line.ReturnsPaired before → line.toList[(column - 1).toNat]? = some c) := by
  obtain ⟨columned, position, shown, inside⟩ := Diagnostic.shown?_some drawn
  obtain ⟨before, c, culprit, known⟩ := calculate_culprit failed reported columned
  obtain ⟨after, split⟩ := culprit.split
  obtain ⟨there, numbered⟩ := culprit.reported reported
  have drawing : diagnostic.draw? source = some (diagnostic.header ++ Diagnostic.underlined line column) := by
    rw [calculate_drawable failed reported, Diagnostic.render, Diagnostic.picture, drawn]
  have same : column = (placeAfter before).column := Option.some.inj (position.symm.trans there)
  subst column
  rw [numbered] at shown
  refine ⟨drawing, before, c, culprit, rfl, ?_⟩
  intro paired
  exact Diagnostic.shownLine_under split known paired shown inside

def pairedReturn : String := "1\r\n2a"

theorem pairedReturn_paired : Text.Line.ReturnsPaired pairedReturn.toList :=
  Text.Line.returnsFed_paired (by decide)

theorem calculate_caret_pairedReturn :
    calculate .ofCommand pairedReturn 100 = .error (.lexical ⟨'a', ⟨2, 2⟩⟩) ∧
    (Diagnostic.unrecognized "a" (some 2) (some 2)).shown? pairedReturn = some ("2a", 2) ∧
    ∃ before c, Culprit pairedReturn (.lexical ⟨'a', ⟨2, 2⟩⟩) before c ∧ "2a".toList[1]? = some c := by
  have failed : calculate .ofCommand pairedReturn 100 = .error (.lexical ⟨'a', ⟨2, 2⟩⟩) := by
    have refused : Token.ofText pairedReturn = .error ⟨'a', ⟨2, 2⟩⟩ := by
      rw [Reader.ofText_reading]
      decide
    rw [calculate, tokensOf, refused]
    rfl
  have drawn : (Diagnostic.unrecognized "a" (some 2) (some 2)).shown? pairedReturn = some ("2a", 2) := by decide
  obtain ⟨_, before, c, culprit, _, under⟩ := calculate_caret .ofCommand pairedReturn 100 _ _ "2a" 2 failed rfl drawn
  obtain ⟨after, split⟩ := culprit.split
  have paired : Text.Line.ReturnsPaired (before ++ c :: after) := split ▸ pairedReturn_paired
  exact ⟨failed, drawn, before, c, culprit, under (Text.Line.returnsPaired_prefix _ paired)⟩

def loneReturn : String := "1\r234\n3a"

/-- A carriage return on its own cuts what is shown and not what is counted, so the caret stands under a digit. -/
theorem calculate_caret_loneReturn :
    calculate .ofCommand loneReturn 100 = .error (.lexical ⟨'a', ⟨2, 2⟩⟩) ∧
    (Failure.lexical ⟨'a', ⟨2, 2⟩⟩).diagnostic? = some (.unrecognized "a" (some 2) (some 2)) ∧
    (Diagnostic.unrecognized "a" (some 2) (some 2)).picture loneReturn = "\n  234\n   ^" ∧
    (Diagnostic.unrecognized "a" (some 2) (some 2)).shown? loneReturn = some ("234", 2) ∧
    "234".toList[1]? = some '3' := by
  have refused : Token.ofText loneReturn = .error ⟨'a', ⟨2, 2⟩⟩ := by
    rw [Reader.ofText_reading]
    decide
  refine ⟨?_, rfl, by decide, by decide, rfl⟩
  rw [calculate, tokensOf, refused]
  rfl

end DigitCalc
