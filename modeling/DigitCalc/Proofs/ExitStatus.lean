import DigitCalc.Command
import DigitCalc.Proofs.Batches
import DigitCalc.Proofs.Inline

/-! How the command ends when it is given expressions. Whatever stops an expression, or keeps all of them from being
had, is reported in one of three places, and each of them comes to the exit status one behind a line that says so. The
status is zero only when everything that was asked for has been printed. -/
namespace DigitCalc

def Printout.Complains (printed : Printout) : Prop :=
  ∃ message more, printed.err = "[error] >>> " ++ message ++ "\n" ++ more

theorem Printout.complains_line (out message : String) :
    Printout.Complains ⟨out, "[error] >>> " ++ message ++ "\n"⟩ :=
  ⟨message, "", String.append_empty.symm⟩

theorem Printout.complains_append {first : Printout} (complains : first.Complains) (later : Printout) :
    (first.append later).Complains := by
  obtain ⟨message, more, starts⟩ := complains
  exact ⟨message, more ++ later.err, by simp [append, starts, String.append_assoc]⟩

theorem Printout.silent_append {first later : Printout} (silent : first.err = "") (complains : later.Complains) :
    (first.append later).Complains := by
  obtain ⟨message, more, starts⟩ := complains
  exact ⟨message, more, by simp [append, silent, starts]⟩

namespace Report
variable {stack : Stack} {display : Display} {limit : Int} {source : String}

/-- The lines of an expression that is dealt with entirely: every form that is wanted, and its value. -/
inductive Whole (stack : Stack) (display : Display) (limit : Int) (source : String) : String → Prop where
  | lines {tokens : List Token} {tree : Expr} {list json : String} {value : Int}
      (read : Token.ofText source = .ok tokens)
      (listed : Token.writeList? tokens = some list) (parsed : Expr.ofTokens stack limit tokens = .ok tree)
      (written : display.json = true → tree.json? stack display.pretty = some json)
      (valued : tree.evaluate = .ok value) (short : Text.Numeral.Short value) :
      Whole stack display limit source
        ((if display.tokens then "[tokens] >>> " ++ list ++ "\n" else "") ++
          (if display.tree then "[ast] >>> " ++ tree.source ++ "\n" else "") ++
          (if display.json then json ++ "\n" else "") ++
          (if display.pretty then source ++ " = " else "") ++ toString value ++ "\n")

section Stages
variable {tokens : List Token} {tree : Expr}

theorem tokensOf_read (read : Token.ofText source = .ok tokens) : tokensOf source = .ok tokens := by
  rw [tokensOf, read]
  rfl

theorem exprOf_parsed (parsed : Expr.ofTokens stack limit tokens = .ok tree) :
    exprOf stack tokens limit = .ok tree := by
  rw [exprOf, parsed]
  rfl

theorem json?_fits {tree : Expr} {pretty : Bool} :
    (∃ json, tree.json? stack pretty = some json) ↔ tree.height ≤ stack.levels := by
  simp [Expr.json?]

theorem fits_written (fits : Fits stack display limit source) (read : Token.ofText source = .ok tokens)
    (parsed : Expr.ofTokens stack limit tokens = .ok tree) :
    ∃ json, display.json = true → tree.json? stack display.pretty = some json := by
  by_cases wanted : display.json = true
  · obtain ⟨json, written⟩ := json?_fits.mpr (fits wanted tokens tree (tokensOf_read read) (exprOf_parsed parsed))
    exact ⟨json, fun _ => written⟩
  · exact ⟨"", fun asked => absurd asked wanted⟩

theorem written_fits {json : String} (read : Token.ofText source = .ok tokens)
    (parsed : Expr.ofTokens stack limit tokens = .ok tree)
    (written : display.json = true → tree.json? stack display.pretty = some json) :
    Fits stack display limit source := by
  intro wanted others another same again
  cases (tokensOf_read read).symm.trans same
  cases (exprOf_parsed parsed).symm.trans again
  exact json?_fits.mp ⟨json, written wanted⟩

theorem tokenLine_written {list : String} (listed : Token.writeList? tokens = some list) :
    tokenLine display tokens = if display.tokens then "[tokens] >>> " ++ list ++ "\n" else "" := by
  rw [tokenLine, listed, Option.elim_some]

theorem jsonLine_written {json : String} (written : display.json = true → tree.json? stack display.pretty = some json) :
    jsonLine stack display tree = if display.json then json ++ "\n" else "" := by
  unfold jsonLine
  split
  · next wanted =>
      rw [written wanted]
      rfl
  · rfl

end Stages

theorem run_whole {lines : String} (whole : Whole stack display limit source lines) :
    run stack display limit source = ⟨⟨lines, ""⟩, .ok true⟩ := by
  cases whole with
  | @lines tokens tree list json value read listed parsed written valued short =>
      have outcome : calculate stack source limit = .ok value := by
        rw [calculate_parsed read parsed, valued]
        rfl
      rw [run_short (written_fits read parsed written) outcome short]
      simp only [forms, tokensOf_read read, exprOf_parsed parsed, tokenLine_written listed, jsonLine_written written,
        String.append_assoc]

inductive Outcome (stack : Stack) (display : Display) (limit : Int) (source : String) : Run Bool → Prop where
  | whole {lines : String} (whole : Whole stack display limit source lines) :
      Outcome stack display limit source ⟨⟨lines, ""⟩, .ok true⟩
  | complained {printed : Printout} (complains : printed.Complains) :
      Outcome stack display limit source ⟨printed, .ok false⟩
  | broken (out : String) : Outcome stack display limit source ⟨⟨out, ""⟩, .error .longNumber⟩

theorem run_outcome (stack : Stack) (positive : 1 ≤ limit) (display : Display) (source : String) :
    Outcome stack display limit source (run stack display limit source) := by
  by_cases fits : Fits stack display limit source
  · cases outcome : calculate stack source limit with
    | ok value =>
        by_cases short : Text.Numeral.Short value
        · obtain ⟨tokens, tree, read, parsed, valued⟩ := calculate_valued outcome
          obtain ⟨list, listed⟩ := writeList?_read (tokensOf_read read)
          obtain ⟨json, written⟩ := fits_written fits read parsed
          have whole := Whole.lines read listed parsed written valued short
          rw [run_whole whole]
          exact .whole whole
        · rw [run_long fits outcome short]
          exact .broken _
    | error failure =>
        rcases calculate_reported positive outcome with ⟨diagnostic, reported⟩ | ⟨rfl, _⟩
        · rw [run_reported fits outcome reported]
          exact .complained (Printout.complains_line _ _)
        · rw [run_exhausted fits outcome]
          exact .complained (Printout.complains_line _ "AST too deep to render as JSON")
  · rw [run_tall fits]
    exact .complained (Printout.complains_line _ "AST too deep to render as JSON")

end Report

namespace Batch
variable {stack : Stack} {display : Display} {limit : Int} {files : Files} {origin : Origin}

/-- Expressions can be had from a text as it stands, and from a file that may be named, is there and can be read. -/
inductive Origin.Holds (files : Files) : Origin → List String → Prop where
  | text (source : String) : Holds files (.text source) [source]
  | file {path text : String} {bytes : List UInt8} (named : isExpressionFile path = true)
      (namable : isNamable path = true) (held : files path = .ok bytes) (decoded : Text.Utf8.read bytes = .ok text) :
      Holds files (.file path) (expressions text)

theorem readFile_outcome (files : Files) (path : String) :
    (∃ bytes text, isNamable path = true ∧ files path = .ok bytes ∧ Text.Utf8.read bytes = .ok text) ∨
      ∃ failure, failure.isStackLimit = false ∧ readFile files path = .error failure := by
  unfold readFile
  by_cases namable : isNamable path = true
  · rw [if_pos namable]
    cases held : files path with
    | error fault => exact Or.inr ⟨_, rfl, rfl⟩
    | ok bytes =>
        cases decoded : Text.Utf8.read bytes with
        | error fault => exact Or.inr ⟨.undecodable fault, rfl, congrArg (Except.mapError Failure.undecodable) decoded⟩
        | ok text => exact Or.inl ⟨bytes, text, namable, rfl, decoded⟩
  · rw [if_neg namable]
    exact Or.inr ⟨_, rfl, rfl⟩

theorem gather_outcome (files : Files) (origin : Origin) :
    (∃ sources, origin.Holds files sources) ∨
      ∃ failure, failure.isStackLimit = false ∧ gather files origin = .error failure := by
  cases origin with
  | text source => exact Or.inl ⟨_, .text source⟩
  | file path =>
      by_cases named : isExpressionFile path = true
      · rcases readFile_outcome files path with ⟨bytes, text, namable, held, decoded⟩ | ⟨failure, within, failed⟩
        · exact Or.inl ⟨_, .file named namable held decoded⟩
        · refine Or.inr ⟨failure, within, ?_⟩
          rw [gather, if_pos named, expressionsIn, failed]
          rfl
      · exact Or.inr ⟨.notAnExpressionFile, rfl, if_neg named⟩

theorem gather_holds {sources : List String} (holds : origin.Holds files sources) :
    gather files origin = .ok sources := by
  cases holds with
  | text source => rfl
  | file named namable held decoded => exact gather_held named namable held decoded

theorem reportAll_lines {sources lines : List String}
    (whole : List.Forall₂ (Report.Whole stack display limit) sources lines) :
    reportAll stack display limit sources = ⟨⟨String.join lines, ""⟩, .ok 0⟩ := by
  induction whole with
  | nil => rfl
  | cons first rest ih =>
      rw [reportAll_reported (Report.run_whole first), ih]
      simp [Printout.append, Except.map]

/-- All expressions are dealt with entirely, or an error is reported and counted, or a value that is too long breaks the
reports off. -/
inductive Course (stack : Stack) (display : Display) (limit : Int) (sources : List String) : Run Nat → Prop where
  | whole {lines : List String} (whole : List.Forall₂ (Report.Whole stack display limit) sources lines) :
      Course stack display limit sources ⟨⟨String.join lines, ""⟩, .ok 0⟩
  | complained {printed : Printout} (count : Nat) (complains : printed.Complains) :
      Course stack display limit sources ⟨printed, .ok (count + 1)⟩
  | broken {printed : Printout} (said : printed.err = "" ∨ printed.Complains) :
      Course stack display limit sources ⟨printed, .error .longNumber⟩

theorem reportAll_course (stack : Stack) (positive : 1 ≤ limit) (display : Display) (sources : List String) :
    Course stack display limit sources (reportAll stack display limit sources) := by
  induction sources with
  | nil => exact .whole .nil
  | cons source rest ih =>
      -- What the first expression reports stands in front of all else, so it alone decides how the error output begins,
      -- unless it reports no error.
      have first := Report.run_outcome stack positive display source
      generalize reported : Report.run stack display limit source = report at first
      generalize followed : reportAll stack display limit rest = later at ih
      cases first with
      | whole lines =>
          cases ih with
          | whole others =>
              have all := List.Forall₂.cons lines others
              rw [reportAll_lines all]
              exact .whole all
          | complained count complains =>
              rw [reportAll_reported reported, followed]
              exact .complained count (Printout.silent_append rfl complains)
          | broken said =>
              rw [reportAll_reported reported, followed]
              rcases said with silent | complains
              · exact .broken (Or.inl (by simp [Printout.append, silent]))
              · exact .broken (Or.inr (Printout.silent_append rfl complains))
      | complained complains =>
          have starts (later : Printout) := Printout.complains_append complains later
          rw [reportAll_reported reported, followed]
          cases ih with
          | whole others => exact .complained 0 (starts _)
          | complained count _ => exact .complained (count + 1) (starts _)
          | broken _ => exact .broken (Or.inr (starts _))
      | broken out =>
          rw [reportAll_stopped reported]
          exact .broken (Or.inl rfl)

def Complete (stack : Stack) (display : Display) (limit : Int) (files : Files) (origin : Origin)
    (printed : Printout) : Prop :=
  ∃ sources lines, origin.Holds files sources ∧ List.Forall₂ (Report.Whole stack display limit) sources lines ∧
    printed = ⟨banner display sources.length ++ String.join lines, ""⟩

end Batch

namespace Command
variable {stack : Stack} {display : Display} {limit : Int} {files : Files} {origin : Batch.Origin}

theorem runBatch_complete {printed : Printout} (complete : Batch.Complete stack display limit files origin printed) :
    runBatch stack display limit files origin = ⟨printed, .ok (.exited 0)⟩ := by
  obtain ⟨sources, lines, holds, whole, rfl⟩ := complete
  rw [runBatch_counted (Batch.run_counted (Batch.gather_holds holds) (Batch.reportAll_lines whole))]
  simp [Batch.tally]

theorem runBatch_failed {printed : Printout} {failure : Failure}
    (failed : Batch.run stack display limit files origin = ⟨printed, .error failure⟩)
    (within : failure.isStackLimit = false) :
    runBatch stack display limit files origin =
      ⟨printed.append ⟨"", "[error] >>> " ++ failure.message ++ "\n"⟩, .ok (.exited 1)⟩ := by
  rw [runBatch, failed, Run.attempt_bind]
  simp [within, Run.complain_eq, Run.bind_ok, Run.pure_eq]

/-- Everything is printed, or an error is reported and the status is one. -/
theorem runBatch_outcome (positive : 1 ≤ limit) (display : Display) (files : Files) (origin : Batch.Origin) :
    (∃ printed, Batch.Complete stack display limit files origin printed) ∨
      ∃ printed, printed.Complains ∧ runBatch stack display limit files origin = ⟨printed, .ok (.exited 1)⟩ := by
  rcases Batch.gather_outcome files origin with ⟨sources, holds⟩ | ⟨failure, within, refused⟩
  · have gathered := Batch.gather_holds holds
    have course := Batch.reportAll_course stack positive display sources
    generalize reported : Batch.reportAll stack display limit sources = reports at course
    cases course with
    | whole lines => exact Or.inl ⟨_, sources, _, holds, lines, rfl⟩
    | complained count complains =>
        refine Or.inr ⟨_, ?_, runBatch_counted (Batch.run_counted gathered reported)⟩
        exact complains
    | broken said =>
        refine Or.inr ⟨_, ?_, runBatch_failed (Batch.run_stopped gathered reported) rfl⟩
        rcases said with silent | complains
        · exact Printout.silent_append silent (Printout.complains_line _ _)
        · exact Printout.complains_append complains _
  · have stopped : Batch.run stack display limit files origin = ⟨.empty, .error failure⟩ := by
      rw [Batch.run, refused, Run.lift_error_bind]
      rfl
    exact Or.inr ⟨_, Printout.silent_append rfl (Printout.complains_line _ _), runBatch_failed stopped within⟩

end Command

namespace Options
variable {options : Options}

def display (options : Options) : Display :=
  ⟨options.tokens, options.tree, options.json, options.pretty⟩

def origin (options : Options) (source : String) : Batch.Origin :=
  if options.isString then .text source else .file source

theorem finish_limit {reading : Reading} (finished : reading.finish = .ok options) : 1 ≤ options.limit := by
  unfold Reading.finish at finished
  split at finished
  · by_cases given : reading.hasLimit = true
    · by_cases low : reading.options.limit < 1
      · simp [given, low] at finished
      · simp only [given, low, Bool.not_true, Bool.false_eq_true, if_false] at finished
        cases finished
        exact Int.not_lt.mp low
    · simp [given] at finished
  · cases finished

theorem read_limit {arguments : List String} (read : Options.read arguments = .ok options) : 1 ≤ options.limit := by
  unfold Options.read at read
  cases words : Word.ofArguments arguments with
  | error fault => simp [words] at read
  | ok inWords =>
      simp only [words] at read
      cases all : Reading.start.readAll inWords with
      | error stop => simp [all, Except.bind] at read
      | ok reading => exact finish_limit (by simpa [all, Except.bind] using read)

end Options

/-- A command that is given a source always ends with an exit status. It is zero if the expressions can be had and each
of them is dealt with entirely, and then that is what is printed; otherwise it is one, and an error is reported. -/
theorem Command.run_status {stack : Stack} (files : Files) (lines : List String) {arguments : List String}
    {options : Options}
    {source : String} (read : Options.read arguments = .ok options) (given : options.source = some source)
    (batch : options.session = false) :
    ∃ printed status, run stack files lines arguments = ⟨printed, .ok (.exited status)⟩ ∧
      (status = 0 ↔ ∃ output, Batch.Complete stack options.display options.limit files (options.origin source) output) ∧
      (status = 0 → Batch.Complete stack options.display options.limit files (options.origin source) printed) ∧
      (status ≠ 0 → status = 1 ∧ printed.Complains) := by
  have command : run stack files lines arguments =
      runBatch stack options.display options.limit files (options.origin source) := by
    rw [run, read]
    simp [ofOptions, given, batch, execute, Options.display, Options.origin]
  rw [command]
  rcases runBatch_outcome (Options.read_limit read) options.display files (options.origin source) with
    ⟨printed, complete⟩ | ⟨printed, complains, failed⟩
  · refine ⟨printed, 0, runBatch_complete complete, ?_, fun _ => complete, fun other => absurd rfl other⟩
    exact ⟨fun _ => ⟨printed, complete⟩, fun _ => rfl⟩
  · have incomplete : ¬ ∃ output,
        Batch.Complete stack options.display options.limit files (options.origin source) output := by
      rintro ⟨output, complete⟩
      cases (runBatch_complete complete).symm.trans failed
    have other : (1 : Nat) ≠ 0 := Nat.one_ne_zero
    refine ⟨printed, 1, failed, ?_, fun zero => absurd zero other, fun _ => ⟨rfl, complains⟩⟩
    exact ⟨fun zero => absurd zero other, fun complete => absurd complete incomplete⟩

theorem Command.run_status_samples :
    (Options.read ["-s", "2*3"] = .ok { Options.default with source := some "2*3", isString := true } ∧
      run .ofCommand (fun _ => .error .absent) [] ["-s", "2*3"] = ⟨⟨"6\n", ""⟩, .ok (.exited 0)⟩) ∧
    Options.read ["sums.arith"] = .ok { Options.default with source := some "sums.arith" } ∧
      ∃ printed, run .ofCommand (fun _ => .error .isFolder) [] ["sums.arith"] = ⟨printed, .ok (.exited 1)⟩ ∧
        printed.Complains := by
  constructor
  · have read : Options.read ["-s", "2*3"] = .ok { Options.default with source := some "2*3", isString := true } :=
      read_value (by decide) (by decide)
    obtain ⟨printed, status, ran, complete, whole, _⟩ := Command.run_status (fun _ => .error .absent) [] read rfl rfl
    obtain ⟨tokens, tree, tokenized, parsed, valued⟩ := calculate_valued (calculate_samples .ofCommand).1
    obtain ⟨list, listed⟩ := Report.writeList?_read (Report.tokensOf_read tokenized)
    have lines := @Report.Whole.lines .ofCommand .plain 100 "2*3" tokens tree list "" 6 tokenized listed parsed nofun
      valued Report.six_short
    have own : Batch.Complete .ofCommand .plain 100 (fun _ => .error .absent) (.text "2*3") ⟨"6\n", ""⟩ :=
      ⟨_, _, .text "2*3", .cons lines .nil, rfl⟩
    have zero := complete.mpr ⟨_, own⟩
    cases (runBatch_complete own).symm.trans (runBatch_complete (whole zero))
    rw [zero] at ran
    exact ⟨read, ran⟩
  · have read : Options.read ["sums.arith"] = .ok { Options.default with source := some "sums.arith" } := by decide
    obtain ⟨printed, status, ran, complete, _, failed⟩ := Command.run_status (fun _ => .error .isFolder) [] read rfl rfl
    have other : status ≠ 0 := by
      intro zero
      obtain ⟨_, _, _, holds, _⟩ := complete.mp zero
      cases holds with
      | file named namable held decoded => cases held
    obtain ⟨rfl, complains⟩ := failed other
    exact ⟨read, printed, ran, complains⟩

end DigitCalc
