import DigitCalc.Proofs.Batches
import DigitCalc.Proofs.Transcript

/-! One expression reported by a batch, answered in a conversation and calculated by itself. Each of the three goes
through the stages on its own; they come to the same value or to the same fault, whatever forms are on display. So the
lines of a text come to the same as a file and as the input of a conversation. -/
namespace DigitCalc
variable {stack : Stack} {limit : Int} {source text : String}

theorem calculate_diagnosed {failure : Failure} (positive : 1 ≤ limit) (low : limit ≤ stack.groups)
    (failed : calculate stack source limit = .error failure) : ∃ diagnostic, failure.diagnostic? = some diagnostic := by
  rcases calculate_reported positive failed with reported | ⟨_, high⟩
  · exact reported
  · omega

/-- A report and an answer end with the value of the expression or with what is wrong with it, and all that is on
display before that are the forms of the stages that succeeded. -/
theorem calculate_presented (positive : 1 ≤ limit) (low : limit ≤ stack.groups) (display : Display) (verbose : Bool)
    (fits : Report.Fits stack display limit source) (writable : Report.Writable stack limit source) :
    (∀ value, calculate stack source limit = .ok value →
      Report.run stack display limit source = ⟨⟨Report.forms stack display limit source ++
        ((if display.pretty then source ++ " = " else "") ++ toString value ++ "\n"), ""⟩, .ok true⟩ ∧
      Session.evaluate stack verbose limit source =
        ⟨⟨Report.forms stack (Session.shown verbose) limit source ++ (toString value ++ "\n"), ""⟩, .ok ()⟩) ∧
    (∀ failure, calculate stack source limit = .error failure → ∃ diagnostic, failure.diagnostic? = some diagnostic ∧
      Report.run stack display limit source = ⟨⟨Report.forms stack display limit source,
        "[error] >>> " ++ diagnostic.render source ++ "\n"⟩, .ok false⟩ ∧
      Session.evaluate stack verbose limit source = ⟨⟨Report.forms stack (Session.shown verbose) limit source ++
        ("[error] >>>\n" ++ diagnostic.render source ++ "\n"), ""⟩, .ok ()⟩) ∧
    (display.json = true → ∀ tokens tree, tokensOf source = .ok tokens → exprOf stack tokens limit = .ok tree →
      ∃ json, tree.json? stack display.pretty = some json ∧ Report.jsonLine stack display tree = json ++ "\n") ∧
    ∀ shown : Display, shown.tokens = true → ∀ tokens, tokensOf source = .ok tokens →
      ∃ list, Token.writeList? tokens = some list ∧
        Report.tokenLine shown tokens = "[tokens] >>> " ++ list ++ "\n" := by
  refine ⟨?_, ?_, ?_, ?_⟩
  · intro value valued
    have short := writable value valued
    exact ⟨Report.run_short fits valued short, Session.evaluate_valued valued short⟩
  · intro failure failed
    obtain ⟨diagnostic, reported⟩ := calculate_diagnosed positive low failed
    exact ⟨diagnostic, reported, Report.run_reported fits failed reported, Session.evaluate_reported failed reported⟩
  · intro wanted tokens tree read parsed
    have written : tree.json? stack display.pretty = some _ := if_pos (fits wanted tokens tree read parsed)
    refine ⟨_, written, ?_⟩
    rw [Report.jsonLine, if_pos wanted, written]
    rfl
  · intro shown wanted tokens read
    obtain ⟨list, written⟩ := Report.writeList?_read read
    refine ⟨list, written, ?_⟩
    rw [Report.tokenLine, if_pos wanted, written]
    rfl

theorem calculate_presented_product : (1 : Int) ≤ 100 ∧ (100 : Int) ≤ Stack.ofCommand.groups ∧
    Report.Fits .ofCommand ⟨true, true, true, true⟩ 100 "2*3" ∧ Report.Writable .ofCommand 100 "2*3" ∧
    Report.run .ofCommand ⟨true, true, true, true⟩ 100 "2*3" =
      ⟨⟨Report.forms .ofCommand ⟨true, true, true, true⟩ 100 "2*3" ++ "2*3 = 6\n", ""⟩, .ok true⟩ ∧
    Session.evaluate .ofCommand true 100 "2*3" =
      ⟨⟨Report.forms .ofCommand (Session.shown true) 100 "2*3" ++ "6\n", ""⟩, .ok ()⟩ := by
  have fits : Report.Fits .ofCommand ⟨true, true, true, true⟩ 100 "2*3" := by
    intro _ tokens tree read parsed
    rw [tokensOf, Reader.ofText_reading] at read
    cases read
    cases parsed
    decide
  have writable : Report.Writable .ofCommand 100 "2*3" := Report.samples_writable "2*3" (.head _)
  obtain ⟨valued, _, _⟩ :=
    @calculate_presented .ofCommand 100 "2*3" (by decide) (by decide) ⟨true, true, true, true⟩ true fits writable
  obtain ⟨reported, answered⟩ := valued 6 (calculate_samples .ofCommand).1
  exact ⟨by decide, by decide, fits, writable, reported, answered⟩

namespace Report

/-- What an expression comes to, as it is written: its value, or what is wrong with it. -/
def verdict (stack : Stack) (limit : Int) (source : String) : Except String String :=
  match calculate stack source limit with
  | .ok value => .ok (toString value)
  | .error failure => .error (failure.diagnostic?.elim failure.message (·.render source))

def values (verdicts : List (Except String String)) : List String :=
  verdicts.filterMap fun
    | .ok value => some value
    | .error _ => none

def faults (verdicts : List (Except String String)) : List String :=
  verdicts.filterMap fun
    | .ok _ => none
    | .error fault => some fault

theorem verdict_valued {value : Int} (valued : calculate stack source limit = .ok value) :
    verdict stack limit source = .ok (toString value) := by
  rw [verdict, valued]

theorem verdict_reported {failure : Failure} {diagnostic : Diagnostic}
    (failed : calculate stack source limit = .error failure) (reported : failure.diagnostic? = some diagnostic) :
    verdict stack limit source = .error (diagnostic.render source) := by
  simp only [verdict, failed, reported, Option.elim_some]

end Report

namespace Batch
open Report

theorem reportAll_verdicts (positive : 1 ≤ limit) (low : limit ≤ stack.groups) {sources : List String}
    (writable : ∀ source ∈ sources, Writable stack limit source) : reportAll stack .plain limit sources =
      ⟨⟨String.join ((values (sources.map (verdict stack limit))).map (· ++ "\n")),
        String.join ((faults (sources.map (verdict stack limit))).map ("[error] >>> " ++ · ++ "\n"))⟩,
      .ok (faults (sources.map (verdict stack limit))).length⟩ := by
  induction sources with
  | nil => rfl
  | cons source rest ih =>
      obtain ⟨own, others⟩ := List.forall_mem_cons.mp writable
      have fits : Fits stack .plain limit source := fits_unwanted rfl
      cases outcome : calculate stack source limit with
      | ok value =>
          rw [reportAll, run_short fits outcome (own value outcome), ih others, forms_plain, List.map_cons,
            verdict_valued outcome]
          simp [Run.bind_ok, Run.pure_eq, Printout.append, Printout.empty, values, faults, Display.plain]
      | error failure =>
          obtain ⟨diagnostic, reported⟩ := calculate_diagnosed positive low outcome
          rw [reportAll, run_reported fits outcome reported, ih others, forms_plain, List.map_cons,
            verdict_reported outcome reported]
          simp [Run.bind_ok, Run.pure_eq, Printout.append, Printout.empty, values, faults]

end Batch

namespace Session
open Report

def said : Except String String → String
  | .ok value => value ++ "\n"
  | .error fault => "[error] >>>\n" ++ fault ++ "\n"

theorem evaluate_verdict (positive : 1 ≤ limit) (low : limit ≤ stack.groups) (writable : Writable stack limit source) :
    evaluate stack false limit source = ⟨⟨said (verdict stack limit source), ""⟩, .ok ()⟩ := by
  have bare : forms stack (shown false) limit source = "" := forms_plain limit source
  cases outcome : calculate stack source limit with
  | ok value =>
      rw [evaluate_valued outcome (writable value outcome), bare, verdict_valued outcome, String.empty_append]
      rfl
  | error failure =>
      obtain ⟨diagnostic, reported⟩ := calculate_diagnosed positive low outcome
      rw [evaluate_reported outcome reported, bare, verdict_reported outcome reported, String.empty_append]
      rfl

theorem modeAfter_steady {lines : List String} (steady : ∀ line ∈ lines, toggles line = false) (verbose : Bool) :
    modeAfter verbose lines = verbose := by
  have none : lines.countP toggles = 0 := by
    rw [List.countP_eq_zero]
    intro line member
    simp [steady line member]
  rw [modeAfter, none]
  rfl

theorem transcript_verdicts (positive : 1 ≤ limit) (low : limit ≤ stack.groups) {lines : List String}
    (steady : ∀ line ∈ lines, toggles line = false)
    (writable : ∀ line ∈ lines, InputLine.isSilent line = false → Writable stack limit line) :
    transcript stack limit false lines = String.join (lines.map fun line =>
      prompt ++ if InputLine.isSilent line then "" else said (verdict stack limit line)) := by
  induction lines with
  | nil => rfl
  | cons line rest ih =>
      obtain ⟨keeps, others⟩ := List.forall_mem_cons.mp steady
      obtain ⟨own, later⟩ := List.forall_mem_cons.mp writable
      have answer : answerText stack limit false line =
          if InputLine.isSilent line then "" else said (verdict stack limit line) := by
        cases silent : InputLine.isSilent line with
        | true => simp [answerText, silent]
        | false => simp [answerText, silent, keeps, evaluate_verdict positive low (own silent)]
      rw [transcript_cons, modeAfter_steady (by simpa using keeps), ih others later, answer, List.map_cons,
        String.join_cons]

end Session

end DigitCalc
