import DigitCalc.Proofs.Caret
import DigitCalc.Report

/-! What is printed for one expression, and how that ends. The intermediate forms on display never change the ending:
it is that of the calculation, but for a value that is too long to be written. -/
namespace DigitCalc

theorem Grammar.ofTokens_refused {stack : Stack} {limit : Int} {tokens : List Token} {fault : ParseFault}
    (positive : 1 ≤ limit) (digits : DigitsCarried tokens) (legible : Legible tokens)
    (refused : Expr.ofTokens stack limit tokens = .error fault) :
    (∃ found, fault = .grammar found) ∨ fault = .outOfCalls ∧ stack.groups < limit := by
  rcases ofTokens_counted positive legible with same | ⟨out, high⟩
  · rw [same] at refused
    exact Or.inl (carried_blames digits (whole_blames limit tokens fault refused))
  · cases refused.symm.trans out
    exact Or.inr ⟨rfl, high⟩

/-- With a limit that can be kept, a failure has a diagnostic, unless the stack does not hold the groups. -/
theorem calculate_reported {stack : Stack} {source : String} {limit : Int} {failure : Failure} (positive : 1 ≤ limit)
    (failed : calculate stack source limit = .error failure) :
    (∃ diagnostic, failure.diagnostic? = some diagnostic) ∨ failure = .parsing .outOfCalls ∧ stack.groups < limit := by
  rcases calculate_failed failed with ⟨fault, _, rfl⟩ | ⟨tokens, fault, read, refused, rfl⟩ |
    ⟨_, tree, fault, _, _, outcome, rfl⟩
  · exact Or.inl ⟨_, rfl⟩
  · have digits := ofText_digits read
    have legible := ofText_legible read
    rcases Grammar.ofTokens_refused positive digits legible refused with ⟨found, rfl⟩ | ⟨rfl, high⟩
    · exact Or.inl ⟨_, rfl⟩
    · exact Or.inr ⟨rfl, high⟩
  · obtain ⟨node, _, _, rfl⟩ := Expr.evaluate_refused outcome
    exact Or.inl ⟨_, rfl⟩

namespace Report
variable {stack : Stack} {display : Display} {source : String} {limit : Int}

def tokenLine (display : Display) (tokens : List Token) : String :=
  if display.tokens then (Token.writeList? tokens).elim "" ("[tokens] >>> " ++ · ++ "\n") else ""

def jsonLine (stack : Stack) (display : Display) (expr : Expr) : String :=
  if display.json then (expr.json? stack display.pretty).elim "" (· ++ "\n") else ""

/-- The intermediate forms that are wanted, each of them if its stage succeeds. -/
def forms (stack : Stack) (display : Display) (limit : Int) (source : String) : String :=
  match tokensOf source with
  | .error _ => ""
  | .ok tokens =>
      tokenLine display tokens ++
        match exprOf stack tokens limit with
        | .error _ => ""
        | .ok expr =>
            (if display.tree then "[ast] >>> " ++ expr.source ++ "\n" else "") ++ jsonLine stack display expr

theorem forms_plain (limit : Int) (source : String) : forms stack .plain limit source = "" := by
  unfold forms
  cases tokensOf source with
  | error failure => rfl
  | ok tokens => cases parsed : exprOf stack tokens limit <;> simp [Display.plain, tokenLine, jsonLine, parsed]

theorem mapM_some {α β : Type} {f : α → Option β} {items : List α}
    (some : ∀ item ∈ items, ∃ value, f item = some value) :
    ∃ values, items.mapM f = .some values := by
  induction items with
  | nil => exact ⟨[], rfl⟩
  | cons item rest ih =>
      obtain ⟨⟨value, own⟩, others⟩ := List.forall_mem_cons.mp some
      obtain ⟨values, later⟩ := ih others
      exact ⟨value :: values, by simp [own, later]⟩

theorem writeList?_read {tokens : List Token} (read : tokensOf source = .ok tokens) :
    ∃ text, Token.writeList? tokens = some text := by
  have written : ∀ token ∈ tokens, ∃ text, token.write? = some text := by
    intro token member
    rw [(Reader.ofText_ok (tokensOf_ok read)).2] at member
    obtain ⟨⟨value, plain⟩, _⟩ := Reader.tokensFrom_written .start source.toList token member
    exact ⟨_, by rw [Token.write?, plain, Option.map_some]⟩
  obtain ⟨texts, all⟩ := mapM_some written
  exact ⟨_, by rw [Token.writeList?, all, Option.map_some]⟩

theorem sayTokens_eq {tokens : List Token} (read : tokensOf source = .ok tokens) :
    sayTokens display tokens = ⟨⟨tokenLine display tokens, ""⟩, .ok ()⟩ := by
  obtain ⟨text, written⟩ := writeList?_read read
  unfold sayTokens tokenLine
  rw [written]
  cases display.tokens <;> rfl

/-- No tree is too high for the forms that are wanted. -/
def Fits (stack : Stack) (display : Display) (limit : Int) (source : String) : Prop :=
  display.json = true → ∀ tokens expr, tokensOf source = .ok tokens → exprOf stack tokens limit = .ok expr →
    expr.height ≤ stack.levels

theorem fits_unwanted (unwanted : display.json = false) : Fits stack display limit source := by
  intro wanted
  exact absurd (unwanted.symm.trans wanted) nofun

theorem sayJson_eq {expr : Expr} (low : display.json = true → expr.height ≤ stack.levels) :
    sayJson stack display expr = ⟨⟨jsonLine stack display expr, ""⟩, .ok ()⟩ := by
  unfold sayJson jsonLine Expr.json?
  cases wanted : display.json with
  | false => rfl
  | true =>
      rw [if_pos (low wanted)]
      rfl

theorem stages_eq (fits : Fits stack display limit source) :
    stages stack display limit source = ⟨⟨forms stack display limit source, ""⟩, calculate stack source limit⟩ := by
  unfold stages forms calculate
  cases read : tokensOf source with
  | error failure => rfl
  | ok tokens =>
      change _ = (⟨_, (exprOf stack tokens limit).bind valueOf⟩ : Run Int)
      simp only [Run.lift_ok_bind, Run.sayIf_eq, sayTokens_eq read, Run.bind_ok]
      -- What a stage has put on display stays there when a later one fails.
      cases parsed : exprOf stack tokens limit with
      | error failure => rfl
      | ok expr =>
          have low : display.json = true → expr.height ≤ stack.levels := by
            intro wanted
            exact fits wanted tokens expr read parsed
          simp only [Run.lift_ok_bind, sayJson_eq low, Run.bind_ok]
          simp [Printout.append, Run.lift, Printout.empty, Except.bind]

theorem stages_tall (tall : ¬ Fits stack display limit source) :
    stages stack display limit source = ⟨⟨forms stack display limit source, ""⟩, .error .tallTree⟩ := by
  obtain ⟨wanted, tokens, expr, read, parsed, high⟩ : display.json = true ∧ ∃ tokens expr,
      tokensOf source = .ok tokens ∧ exprOf stack tokens limit = .ok expr ∧ ¬ expr.height ≤ stack.levels := by
    simpa [Fits] using tall
  have unwritten : expr.json? stack display.pretty = none := if_neg high
  unfold stages forms
  simp only [read, parsed, Run.lift_ok_bind, Run.sayIf_eq, sayTokens_eq read, Run.bind_ok, sayJson, jsonLine, wanted,
    unwritten, if_true, Run.lift_error_bind]
  simp [Printout.append, Run.lift, Printout.empty]

/-- The value of a text, if there is one, can be written. -/
def Writable (stack : Stack) (limit : Int) (source : String) : Prop :=
  ∀ value, calculate stack source limit = .ok value → Text.Numeral.Short value

theorem numeral_short {value : Int} (short : Text.Numeral.Short value) :
    numeral value = .done (toString value) := by
  unfold numeral
  rw [Text.Numeral.write?_short short]

theorem numeral_long {value : Int} (long : ¬ Text.Numeral.Short value) :
    numeral value = .lift (.error .longNumber) := by
  unfold numeral
  rw [Text.Numeral.write?_long long]

/-- What is printed for an expression that is dealt with: its value on one line, behind the forms that are wanted, or
one report of what is wrong with it. -/
inductive Account (stack : Stack) (display : Display) (limit : Int) (source : String) : Printout → Prop where
  | valued {value : Int} (valued : calculate stack source limit = .ok value) (short : Text.Numeral.Short value) :
      Account stack display limit source ⟨forms stack display limit source ++
        ((if display.pretty then source ++ " = " else "") ++ toString value ++ "\n"), ""⟩
  | refused {failure : Failure} {diagnostic : Diagnostic} (failed : calculate stack source limit = .error failure)
      (reported : failure.diagnostic? = some diagnostic) :
      Account stack display limit source
        ⟨forms stack display limit source, "[error] >>> " ++ diagnostic.render source ++ "\n"⟩
  | exhausted (failed : calculate stack source limit = .error (.parsing .outOfCalls)) (high : stack.groups < limit) :
      Account stack display limit source
        ⟨forms stack display limit source, "[error] >>> AST too deep to render as JSON\n"⟩

theorem success_short {value : Int} (short : Text.Numeral.Short value) : success display source value =
    ⟨⟨(if display.pretty then source ++ " = " else "") ++ toString value ++ "\n", ""⟩, .ok true⟩ := by
  have line : (if display.pretty then source ++ " = " ++ toString value else toString value) =
      (if display.pretty then source ++ " = " else "") ++ toString value := by
    cases display.pretty <;> simp
  unfold success
  rw [numeral_short short]
  change (Run.say _ >>= fun _ => pure true) = _
  rw [line, Run.say_eq, Run.bind_ok, Run.pure_eq, Printout.append_empty]

theorem success_long {value : Int} (long : ¬ Text.Numeral.Short value) :
    success display source value = .lift (.error .longNumber) := by
  unfold success
  rw [numeral_long long]
  rfl

theorem drawing_eq {failure : Failure} {diagnostic : Diagnostic}
    (refused : calculate stack source limit = .error failure)
    (reported : failure.diagnostic? = some diagnostic) :
    drawing diagnostic source = .done (diagnostic.render source) := by
  unfold drawing
  rw [calculate_drawable refused reported]

theorem failed_reported {failure : Failure} {diagnostic : Diagnostic}
    (refused : calculate stack source limit = .error failure) (reported : failure.diagnostic? = some diagnostic) :
    failed source failure = ⟨⟨"", "[error] >>> " ++ diagnostic.render source ++ "\n"⟩, .ok false⟩ := by
  unfold failed
  rw [reported]
  change (drawing diagnostic source >>= fun text => Run.complain _ >>= fun _ => pure false) = _
  rw [drawing_eq refused reported]
  change (Run.complain _ >>= fun _ => pure false) = _
  rw [Run.complain_eq, Run.bind_ok, Run.pure_eq, Printout.append_empty]

theorem failed_stack {failure : Failure} (stack : failure.isStackLimit = true) : failed source failure =
    ⟨⟨"", "[error] >>> AST too deep to render as JSON\n"⟩, .ok false⟩ := by
  have unreported : failure.diagnostic? = none := by
    unfold Failure.isStackLimit at stack
    split at stack <;> first | rfl | cases stack
  unfold failed
  rw [unreported]
  change (if failure.isStackLimit = true then Run.complain _ >>= fun _ => pure false else _) = _
  rw [if_pos stack, Run.complain_eq, Run.bind_ok, Run.pure_eq, Printout.append_empty]
  rfl

theorem run_valued {value : Int} (fits : Fits stack display limit source)
    (valued : calculate stack source limit = .ok value) :
    run stack display limit source =
      ⟨Printout.append ⟨forms stack display limit source, ""⟩ (success display source value).printed,
        (success display source value).ending⟩ := by
  unfold run
  rw [stages_eq fits, valued, Run.attempt_bind]

theorem run_refused {failure : Failure} (fits : Fits stack display limit source)
    (refused : calculate stack source limit = .error failure) :
    run stack display limit source =
      ⟨Printout.append ⟨forms stack display limit source, ""⟩ (failed source failure).printed,
      (failed source failure).ending⟩ := by
  unfold run
  rw [stages_eq fits, refused, Run.attempt_bind]

theorem run_tall (tall : ¬ Fits stack display limit source) : run stack display limit source =
    ⟨⟨forms stack display limit source, "[error] >>> AST too deep to render as JSON\n"⟩, .ok false⟩ := by
  have told : failed source .tallTree = _ := failed_stack rfl
  unfold run
  rw [stages_tall tall, Run.attempt_bind]
  simp [told, Printout.append]

theorem run_short {value : Int} (fits : Fits stack display limit source)
    (valued : calculate stack source limit = .ok value)
    (short : Text.Numeral.Short value) : run stack display limit source =
      ⟨⟨forms stack display limit source ++
        ((if display.pretty then source ++ " = " else "") ++ toString value ++ "\n"), ""⟩,
        .ok true⟩ := by
  rw [run_valued fits valued, success_short short]
  simp [Printout.append]

theorem run_reported {failure : Failure} {diagnostic : Diagnostic} (fits : Fits stack display limit source)
    (refused : calculate stack source limit = .error failure) (reported : failure.diagnostic? = some diagnostic) :
    run stack display limit source =
      ⟨⟨forms stack display limit source, "[error] >>> " ++ diagnostic.render source ++ "\n"⟩, .ok false⟩ := by
  rw [run_refused fits refused, failed_reported refused reported]
  simp [Printout.append]

theorem run_exhausted (fits : Fits stack display limit source)
    (refused : calculate stack source limit = .error (.parsing .outOfCalls)) : run stack display limit source =
      ⟨⟨forms stack display limit source, "[error] >>> AST too deep to render as JSON\n"⟩, .ok false⟩ := by
  rw [run_refused fits refused, failed_stack rfl]
  simp [Printout.append]

/-- Every expression is dealt with whose value can be written, and only one without a value is a failure. -/
theorem run_account (positive : 1 ≤ limit) (fits : Fits stack display limit source)
    (writable : Writable stack limit source) :
    ∃ printed, Account stack display limit source printed ∧
      run stack display limit source = ⟨printed, .ok (calculate stack source limit).isOk⟩ := by
  cases outcome : calculate stack source limit with
  | ok value =>
      have short := writable value outcome
      exact ⟨_, .valued outcome short, run_short fits outcome short⟩
  | error failure =>
      rcases calculate_reported positive outcome with ⟨diagnostic, reported⟩ | ⟨rfl, high⟩
      · exact ⟨_, .refused outcome reported, run_reported fits outcome reported⟩
      · exact ⟨_, .exhausted outcome high, run_exhausted fits outcome⟩

theorem run_long {value : Int} (fits : Fits stack display limit source)
    (valued : calculate stack source limit = .ok value)
    (long : ¬ Text.Numeral.Short value) :
    run stack display limit source = ⟨⟨forms stack display limit source, ""⟩, .error .longNumber⟩ := by
  rw [run_valued fits valued, success_long long]
  simp [Run.lift]

theorem six_short : Text.Numeral.Short 6 :=
  @Text.Numeral.short_of_lt 6 1 (by decide) (by decide)

theorem samples_writable : ∀ source ∈ ["2*3", "1/0"], Writable stack 100 source := by
  intro source member value outcome
  have listed : source = "2*3" ∨ source = "1/0" := by simpa using member
  rcases listed with rfl | rfl
  · cases (calculate_samples stack).1.symm.trans outcome
    exact six_short
  · cases (calculate_samples stack).2.symm.trans outcome

end Report

end DigitCalc
