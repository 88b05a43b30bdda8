import DigitCalc.Calculation
import DigitCalc.Proofs.Evaluation
import DigitCalc.Proofs.Exactness
import DigitCalc.Proofs.Lexing

/-! How a calculation ends, for every text and for every limit that leaves the stack enough calls. The alphabet decides
first, then the grammar, then the divisors; each stage hands to the next one only what that one can deal with, so a
calculation has a value or a diagnostic, and a list of texts is always calculated to its end. -/
namespace DigitCalc

namespace Expr

def dividesByZero : Expr → Prop
  | .binary .div _ right _ => right.evaluate = .ok 0
  | _ => False

theorem refusal?_eq_some_iff (node : Expr) (fault : EvalFault) :
    refusal? (fun _ => true) node = some fault ↔ node.dividesByZero ∧ fault = .divisionByZero node.place := by
  cases node with
  | digit value place => simp [refusal?, dividesByZero]
  | negative operand place => simp [refusal?, dividesByZero]
  | binary operator left right place =>
      cases operator with
      | div =>
          rw [dividesByZero, evaluate, evaluateWith_value]
          -- A divisor without a value is not zero: the fault is that of a node before the division.
          rcases outcome : right.value fun _ => true with failed | value
          · simp [refusal?, outcome]
          · by_cases zero : value = 0 <;> simp [refusal?, outcome, zero, Expr.place, eq_comm]
      | _ => simp [refusal?, dividesByZero]

theorem evaluate_refused {tree : Expr} {fault : EvalFault} (failed : tree.evaluate = .error fault) :
    ∃ node ∈ tree.postorder, node.dividesByZero ∧ fault = .divisionByZero node.place := by
  have first := @value_first (fun _ => true) tree
  rw [← evaluateWith_value, ← evaluate, failed] at first
  obtain ⟨node, member, refused⟩ := List.exists_of_findSome?_eq_some first
  exact ⟨node, member, (refusal?_eq_some_iff node fault).mp refused⟩

theorem evaluate_ends (tree : Expr) :
    ((∃ value, tree.evaluate = .ok value) ∧ ∀ node ∈ tree.postorder, ¬ node.dividesByZero) ∨
      ((∃ place, tree.evaluate = .error (.divisionByZero place)) ∧ ∃ node ∈ tree.postorder, node.dividesByZero) := by
  cases outcome : tree.evaluate with
  | ok value =>
      have first := @value_first (fun _ => true) tree
      rw [← evaluateWith_value, ← evaluate, outcome] at first
      refine Or.inl ⟨⟨value, rfl⟩, ?_⟩
      intro node member divides
      have none := List.findSome?_eq_none_iff.mp first node member
      rw [(refusal?_eq_some_iff node _).mpr ⟨divides, rfl⟩] at none
      cases none
  | error fault =>
      obtain ⟨node, member, divides, rfl⟩ := evaluate_refused outcome
      exact Or.inr ⟨⟨_, rfl⟩, node, member, divides⟩

end Expr

namespace Grammar

variable {stack : Stack} {limit : Int} {tokens : List Token}

/-- The stack runs out only under a limit that lets more groups be open than it holds. -/
theorem ofTokens_counted (positive : 1 ≤ limit) (legible : Legible tokens) :
    Expr.ofTokens stack limit tokens = whole limit .unbounded tokens ∨
      Expr.ofTokens stack limit tokens = .error .outOfCalls ∧ stack.groups < limit := by
  rw [Expr.ofTokens, ofTokensWith_eq _ positive]
  rcases whole_keeps limit (.ofStack stack) tokens with same | ⟨out, left, budget, few⟩
  · rw [same]
    exact Or.inl legible.telling
  · cases budget
    simp only [calls] at few
    exact Or.inr ⟨(telling_eq_outOfCalls _).mpr out, by omega⟩

theorem ofTokens_uncounted (positive : 1 ≤ limit) (low : limit ≤ stack.groups) (legible : Legible tokens) :
    Expr.ofTokens stack limit tokens = whole limit .unbounded tokens := by
  rcases ofTokens_counted positive legible with same | ⟨_, high⟩
  · exact same
  · omega

end Grammar

def Lexical (source : String) : Prop :=
  ∀ c ∈ source.toList, c ∈ Reader.alphabet

/-- The ways in which a calculation ends. Each has a condition of its own, and no two conditions hold together. -/
inductive Ends (source : String) (limit : Int) : Except Failure Int → Prop where
  | foreign (fault : Unrecognized) (foreign : ¬ Lexical source) : Ends source limit (.error (.lexical fault))
  | unspelled {tokens : List Token} (fault : SyntaxFault) (known : Lexical source)
      (read : Token.ofText source = .ok tokens) (none : ¬ ∃ tree, Grammar.SpellsWithin limit tokens tree) :
      Ends source limit (.error (.parsing (.grammar fault)))
  | divided {tokens : List Token} {tree node : Expr} (place : Place) (known : Lexical source)
      (read : Token.ofText source = .ok tokens) (spelled : Grammar.SpellsWithin limit tokens tree)
      (member : node ∈ tree.postorder) (divides : node.dividesByZero) :
      Ends source limit (.error (.evaluation (.divisionByZero place)))
  | valued {tokens : List Token} {tree : Expr} (value : Int) (known : Lexical source)
      (read : Token.ofText source = .ok tokens) (spelled : Grammar.SpellsWithin limit tokens tree)
      (whole : ∀ node ∈ tree.postorder, ¬ node.dividesByZero) : Ends source limit (.ok value)

section Stages
variable {stack : Stack} {source : String} {limit : Int} {tokens : List Token}

theorem tokensOf_ok (read : tokensOf source = .ok tokens) : Token.ofText source = .ok tokens := by
  unfold tokensOf at read
  cases found : Token.ofText source <;> rw [found] at read <;> cases read
  rfl

theorem ofText_foreign (foreign : ¬ Lexical source) : ∃ fault, Token.ofText source = .error fault := by
  have among : ∃ c ∈ source.toList, c ∉ Reader.alphabet := by simpa [Lexical] using foreign
  rw [Reader.ofText_reading]
  exact Reader.reading_foreign .start among

theorem ofText_known (known : Lexical source) : ∃ tokens, Token.ofText source = .ok tokens := by
  refine ⟨Reader.tokensFrom .start source.toList, ?_⟩
  rw [Reader.ofText_reading, Reader.reading_known .start known]

theorem ofText_digits (read : Token.ofText source = .ok tokens) : Grammar.DigitsCarried tokens := by
  rw [(Reader.ofText_ok read).2]
  exact Reader.tokensFrom_digits .start source.toList

theorem ofText_legible (read : Token.ofText source = .ok tokens) : Grammar.Legible tokens := by
  rw [(Reader.ofText_ok read).2]
  exact fun token member => (Reader.tokensFrom_written .start source.toList token member).2

theorem ofTokens_spelled {tree : Expr} (positive : 1 ≤ limit) (low : limit ≤ stack.groups)
    (read : Token.ofText source = .ok tokens) (spelled : Grammar.SpellsWithin limit tokens tree) :
    Expr.ofTokens stack limit tokens = .ok tree := by
  rw [Grammar.ofTokens_uncounted positive low (ofText_legible read)]
  exact (Grammar.whole_ok_iff limit (by omega) tokens tree).mpr spelled

theorem ofTokens_unspelled (positive : 1 ≤ limit) (low : limit ≤ stack.groups)
    (read : Token.ofText source = .ok tokens) (none : ¬ ∃ tree, Grammar.SpellsWithin limit tokens tree) :
    ∃ fault, Expr.ofTokens stack limit tokens = .error (.grammar fault) := by
  rw [Grammar.ofTokens_uncounted positive low (ofText_legible read)]
  exact Grammar.whole_unspelled limit (by omega) (ofText_digits read) none

/-! What a calculation comes to, by the first stage that fails. -/

theorem calculate_unread {fault : Unrecognized} (stopped : Token.ofText source = .error fault) :
    calculate stack source limit = .error (.lexical fault) := by
  rw [calculate, tokensOf, stopped]
  rfl

theorem calculate_lexical {value : Int} (valued : calculate stack source limit = .ok value) : Lexical source := by
  by_contra foreign
  obtain ⟨fault, stopped⟩ := ofText_foreign foreign
  cases valued.symm.trans (calculate_unread stopped)

theorem calculate_unparsed {fault : ParseFault} (read : Token.ofText source = .ok tokens)
    (refused : Expr.ofTokens stack limit tokens = .error fault) :
    calculate stack source limit = .error (.parsing fault) := by
  rw [calculate, tokensOf, read]
  change (exprOf stack tokens limit).bind valueOf = _
  rw [exprOf, refused]
  rfl

theorem calculate_parsed {tree : Expr} (read : Token.ofText source = .ok tokens)
    (parsed : Expr.ofTokens stack limit tokens = .ok tree) :
    calculate stack source limit = tree.evaluate.mapError .evaluation := by
  rw [calculate, tokensOf, read]
  change (exprOf stack tokens limit).bind valueOf = _
  rw [exprOf, parsed]
  rfl

theorem calculate_ends (source : String) (positive : 1 ≤ limit) (low : limit ≤ stack.groups) :
    Ends source limit (calculate stack source limit) := by
  by_cases known : Lexical source
  · obtain ⟨tokens, read⟩ := ofText_known known
    by_cases spelled : ∃ tree, Grammar.SpellsWithin limit tokens tree
    · obtain ⟨tree, spelled⟩ := spelled
      rw [calculate_parsed read (ofTokens_spelled positive low read spelled)]
      rcases tree.evaluate_ends with ⟨⟨value, outcome⟩, whole⟩ | ⟨⟨place, outcome⟩, node, member, divides⟩
      · rw [outcome]
        exact .valued value known read spelled whole
      · rw [outcome]
        exact .divided place known read spelled member divides
    · obtain ⟨fault, refused⟩ := ofTokens_unspelled positive low read spelled
      rw [calculate_unparsed read refused]
      exact .unspelled fault known read spelled
  · obtain ⟨fault, stopped⟩ := ofText_foreign known
    rw [calculate_unread stopped]
    exact .foreign fault known

theorem calculate_valued {value : Int} (valued : calculate stack source limit = .ok value) :
    ∃ tokens tree, Token.ofText source = .ok tokens ∧ Expr.ofTokens stack limit tokens = .ok tree ∧
      tree.evaluate = .ok value := by
  cases read : Token.ofText source with
  | error fault => cases (calculate_unread read).symm.trans valued
  | ok tokens =>
      cases parsed : Expr.ofTokens stack limit tokens with
      | error fault => cases (calculate_unparsed read parsed).symm.trans valued
      | ok tree =>
          rw [calculate_parsed read parsed] at valued
          cases outcome : tree.evaluate with
          | error fault =>
              rw [outcome] at valued
              cases valued
          | ok found =>
              rw [outcome] at valued
              cases valued
              exact ⟨tokens, tree, rfl, parsed, outcome⟩

theorem calculate_failed {failure : Failure} (failed : calculate stack source limit = .error failure) :
    (∃ fault, Token.ofText source = .error fault ∧ failure = .lexical fault) ∨
      (∃ tokens fault, Token.ofText source = .ok tokens ∧ Expr.ofTokens stack limit tokens = .error fault ∧
        failure = .parsing fault) ∨
      ∃ tokens tree fault, Token.ofText source = .ok tokens ∧ Expr.ofTokens stack limit tokens = .ok tree ∧
        tree.evaluate = .error fault ∧ failure = .evaluation fault := by
  cases read : Token.ofText source with
  | error fault =>
      rw [calculate_unread read] at failed
      cases failed
      exact Or.inl ⟨fault, rfl, rfl⟩
  | ok tokens =>
      cases parsed : Expr.ofTokens stack limit tokens with
      | error fault =>
          rw [calculate_unparsed read parsed] at failed
          cases failed
          exact Or.inr (Or.inl ⟨tokens, fault, rfl, parsed, rfl⟩)
      | ok tree =>
          rw [calculate_parsed read parsed] at failed
          cases outcome : tree.evaluate with
          | ok value =>
              rw [outcome] at failed
              cases failed
          | error fault =>
              rw [outcome] at failed
              cases failed
              exact Or.inr (Or.inr ⟨tokens, tree, fault, rfl, parsed, outcome, rfl⟩)

end Stages

namespace Ends
variable {source : String} {limit : Int} {outcome : Except Failure Int} {tokens : List Token} {tree : Expr}

theorem reported (ends : Ends source limit outcome) :
    (∃ value, outcome = .ok value) ∨ ∃ failure, outcome = .error failure ∧ failure.diagnostic?.isSome = true := by
  cases ends with
  | valued value => exact Or.inl ⟨value, rfl⟩
  | _ => exact Or.inr ⟨_, rfl, rfl⟩

theorem foreign_iff (ends : Ends source limit outcome) :
    (∃ fault, outcome = .error (.lexical fault)) ↔ ¬ Lexical source := by
  constructor
  · rintro ⟨fault, rfl⟩
    cases ends
    assumption
  · intro foreign
    cases ends with
    | foreign fault => exact ⟨fault, rfl⟩
    | unspelled fault known => exact absurd known foreign
    | divided place known => exact absurd known foreign
    | valued value known => exact absurd known foreign

theorem unspelled_iff (ends : Ends source limit outcome) (known : Lexical source)
    (read : Token.ofText source = .ok tokens) :
    (∃ fault, outcome = .error (.parsing (.grammar fault))) ↔
      ¬ ∃ tree, Grammar.SpellsWithin limit tokens tree := by
  constructor
  · rintro ⟨fault, rfl⟩
    cases ends with
    | unspelled _ _ again none =>
        cases read.symm.trans again
        exact none
  · intro none
    cases ends with
    | foreign fault foreign => exact absurd known foreign
    | unspelled fault => exact ⟨fault, rfl⟩
    | divided place _ again spelled =>
        cases read.symm.trans again
        exact absurd ⟨_, spelled⟩ none
    | valued value _ again spelled =>
        cases read.symm.trans again
        exact absurd ⟨_, spelled⟩ none

theorem same_tree {again : List Token} {other : Expr} (read : Token.ofText source = .ok tokens)
    (spelled : Grammar.SpellsWithin limit tokens tree) (reread : Token.ofText source = .ok again)
    (respelled : Grammar.SpellsWithin limit again other) : other = tree := by
  cases read.symm.trans reread
  obtain ⟨m, first, _⟩ := spelled
  obtain ⟨n, second, _⟩ := respelled
  exact (Grammar.spells_unique second first).1

theorem divided_iff (ends : Ends source limit outcome) (known : Lexical source)
    (read : Token.ofText source = .ok tokens) (spelled : Grammar.SpellsWithin limit tokens tree) :
    ((∃ place, outcome = .error (.evaluation (.divisionByZero place))) ↔
      ∃ node ∈ tree.postorder, node.dividesByZero) ∧
    ((∃ value, outcome = .ok value) ↔ ¬ ∃ node ∈ tree.postorder, node.dividesByZero) := by
  -- Two readings of one text agree in their tokens and their tree, so the way in which it ends decides.
  cases ends with
  | foreign fault foreign => exact absurd known foreign
  | unspelled fault _ again none =>
      cases read.symm.trans again
      exact absurd ⟨tree, spelled⟩ none
  | divided place _ again respelled member divides =>
      cases same_tree read spelled again respelled
      have some : ∃ node ∈ tree.postorder, node.dividesByZero := ⟨_, member, divides⟩
      exact ⟨⟨fun _ => some, fun _ => ⟨place, rfl⟩⟩, ⟨nofun, fun none => absurd some none⟩⟩
  | valued value _ again respelled whole =>
      cases same_tree read spelled again respelled
      have none : ¬ ∃ node ∈ tree.postorder, node.dividesByZero := by
        rintro ⟨node, member, divides⟩
        exact whole node member divides
      exact ⟨⟨nofun, fun some => absurd some none⟩, ⟨fun _ => none, fun _ => ⟨value, rfl⟩⟩⟩

end Ends

theorem calculate_samples (stack : Stack) : calculate stack "2*3" 100 = .ok 6 ∧
    calculate stack "1/0" 100 = .error (.evaluation (.divisionByZero ⟨1, 2⟩)) := by
  have product : Token.ofText "2*3" =
      .ok [⟨.digit, .int 2, ⟨1, 1⟩⟩, ⟨.times, .text "*", ⟨1, 2⟩⟩, ⟨.digit, .int 3, ⟨1, 3⟩⟩] := by
    rw [Reader.ofText_reading]
    decide
  have quotient : Token.ofText "1/0" =
      .ok [⟨.digit, .int 1, ⟨1, 1⟩⟩, ⟨.division, .text "/", ⟨1, 2⟩⟩, ⟨.digit, .int 0, ⟨1, 3⟩⟩] := by
    rw [Reader.ofText_reading]
    decide
  constructor
  · rw [@calculate_parsed stack _ 100 _ (.binary .prod (.digit 2 ⟨1, 1⟩) (.digit 3 ⟨1, 3⟩) ⟨1, 2⟩) product rfl]
    rw [Expr.evaluate, Expr.evaluateWith_value]
    rfl
  · rw [@calculate_parsed stack _ 100 _ (.binary .div (.digit 1 ⟨1, 1⟩) (.digit 0 ⟨1, 3⟩) ⟨1, 2⟩) quotient rfl]
    rw [Expr.evaluate, Expr.evaluateWith_value]
    rfl

theorem calculateEach_eq {stack : Stack} {limit : Int} (positive : 1 ≤ limit) (low : limit ≤ stack.groups)
    (sources : List String) :
    calculateEach stack limit sources = .ok (sources.map fun source => ⟨source, calculate stack source limit⟩) := by
  induction sources with
  | nil => rfl
  | cons source rest ih =>
      rw [calculateEach, ih]
      rcases (calculate_ends source positive low).reported with ⟨value, outcome⟩ | ⟨failure, outcome, reported⟩
      · simp [outcome, Except.map]
      · simp [outcome, reported, Except.map]

/-- A foreign character decides before anything else, then the grammar with its limit, then a divisor that is zero;
if none of them does, there is a value. No other failure occurs, so a list of texts is calculated to its end. -/
theorem calculate_classified (stack : Stack) (source : String) (limit : Int) (positive : 1 ≤ limit)
    (low : limit ≤ stack.groups) :
    ((∃ fault, calculate stack source limit = .error (.lexical fault)) ↔ ∃ c ∈ source.toList, c ∉ Reader.alphabet) ∧
    ((∀ c ∈ source.toList, c ∈ Reader.alphabet) → ∃ tokens, Token.ofText source = .ok tokens ∧
      ((∃ fault, calculate stack source limit = .error (.parsing (.grammar fault))) ↔
        ¬ ∃ tree, Grammar.SpellsWithin limit tokens tree) ∧
      ∀ tree, Grammar.SpellsWithin limit tokens tree → Expr.ofTokens stack limit tokens = .ok tree ∧
        ((∃ place, calculate stack source limit = .error (.evaluation (.divisionByZero place))) ↔
          ∃ node ∈ tree.postorder, node.dividesByZero) ∧
        ((∃ value, calculate stack source limit = .ok value) ↔ ¬ ∃ node ∈ tree.postorder, node.dividesByZero)) ∧
    (∀ failure, calculate stack source limit = .error failure → (∃ fault, failure = .lexical fault) ∨
      (∃ fault, failure = .parsing (.grammar fault)) ∨ ∃ place, failure = .evaluation (.divisionByZero place)) ∧
    ∀ sources, calculateEach stack limit sources =
      .ok (sources.map fun source => ⟨source, calculate stack source limit⟩) ∧
      ∀ source ∈ sources, (∃ value, calculate stack source limit = .ok value) ∨
        ∃ failure, calculate stack source limit = .error failure ∧ failure.diagnostic?.isSome = true := by
  have ends := calculate_ends source positive low
  refine ⟨?_, ?_, ?_, ?_⟩
  · rw [ends.foreign_iff]
    simp [Lexical]
  · intro known
    obtain ⟨tokens, read⟩ := ofText_known known
    refine ⟨tokens, read, ends.unspelled_iff known read, ?_⟩
    intro tree spelled
    exact ⟨ofTokens_spelled positive low read spelled, ends.divided_iff known read spelled⟩
  · intro failure failed
    rw [failed] at ends
    cases ends with
    | foreign fault => exact Or.inl ⟨fault, rfl⟩
    | unspelled fault => exact Or.inr (Or.inl ⟨fault, rfl⟩)
    | divided place => exact Or.inr (Or.inr ⟨place, rfl⟩)
  · intro sources
    exact ⟨calculateEach_eq positive low sources, fun source _ => (calculate_ends source positive low).reported⟩

theorem calculate_classified_oneByZero : (1 : Int) ≤ 1 ∧ (1 : Int) ≤ Stack.ofCommand.groups ∧
    ∃ place, calculate .ofCommand "1/0" 1 = .error (.evaluation (.divisionByZero place)) := by
  have classified := calculate_classified .ofCommand "1/0" 1 (by decide) (by decide)
  obtain ⟨tokens, read, _, ends⟩ := classified.2.1 (Reader.alphabet_of_all (by decide))
  have found : tokens = [⟨.digit, .int 1, ⟨1, 1⟩⟩, ⟨.division, .text "/", ⟨1, 2⟩⟩, ⟨.digit, .int 0, ⟨1, 3⟩⟩] := by
    rw [Reader.ofText_reading, Reader.reading_known .start (Reader.alphabet_of_all (by decide))] at read
    rw [← Except.ok.inj read]
    decide
  have spelled : Grammar.SpellsWithin 1 tokens (.binary .div (.digit 1 ⟨1, 1⟩) (.digit 0 ⟨1, 3⟩) ⟨1, 2⟩) := by
    rw [found]
    exact (Grammar.whole_ok_iff 1 (by decide) _ _).mp rfl
  have zero : (Expr.digit 0 ⟨1, 3⟩).evaluate = .ok 0 := by
    rw [Expr.evaluate, Expr.evaluateWith_value]
    rfl
  exact ⟨by decide, by decide, (ends _ spelled).2.1.mpr ⟨_, List.mem_append_right _ List.mem_cons_self, zero⟩⟩

end DigitCalc
