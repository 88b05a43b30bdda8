import DigitCalc.Proofs.SourceLines
import DigitCalc.Session

/-! A conversation from its greeting to its farewell. What a line is answered with depends on the line alone and on
whether intermediate forms are shown, and a fault of an expression is an answer like any other. Two lines have none: one
whose value is too long to be written, and one whose groups the stack does not hold. -/
namespace DigitCalc.Session
variable {stack : Stack} {verbose after : Bool} {limit : Int} {line source text : String}
variable {earlier rest lines : List String}

def shown (verbose : Bool) : Display :=
  { Display.plain with tokens := verbose, tree := verbose }

def isLeave (line : String) : Bool :=
  line = "exit" || line = "quit"

def spoken (lines : List String) : List String :=
  lines.takeWhile fun line => !isLeave line

def Asks (line : String) : Prop :=
  InputLine.isSilent line = false ∧ line.toLower ≠ "verbose-mode"

/-- The answer to an expression: its value on a line, or a report of what is wrong with it. -/
inductive Answer (stack : Stack) (verbose : Bool) (limit : Int) (source : String) : String → Prop where
  | valued {value : Int} (valued : calculate stack source limit = .ok value) (short : Text.Numeral.Short value) :
      Answer stack verbose limit source (Report.forms stack (shown verbose) limit source ++ (toString value ++ "\n"))
  | refused {failure : Failure} {diagnostic : Diagnostic} (failed : calculate stack source limit = .error failure)
      (reported : failure.diagnostic? = some diagnostic) :
      Answer stack verbose limit source
        (Report.forms stack (shown verbose) limit source ++ ("[error] >>>\n" ++ diagnostic.render source ++ "\n"))

/-- An expression without an answer, and the failure in place of it. -/
inductive Unanswered (stack : Stack) (limit : Int) (source : String) : Failure → Prop where
  | long {value : Int} (valued : calculate stack source limit = .ok value) (long : ¬ Text.Numeral.Short value) :
      Unanswered stack limit source .longNumber
  | exhausted (failed : calculate stack source limit = .error (.parsing .outOfCalls)) (high : stack.groups < limit) :
      Unanswered stack limit source (.parsing .outOfCalls)

def Answerable (stack : Stack) (limit : Int) (source : String) : Prop :=
  ∀ failure, ¬ Unanswered stack limit source failure

/-- What follows the prompt after one line, and the mode from there on. -/
inductive Reply (stack : Stack) (limit : Int) (verbose : Bool) (line : String) : String → Bool → Prop where
  | silent (silent : InputLine.isSilent line = true) : Reply stack limit verbose line "" verbose
  | toggled (loud : InputLine.isSilent line = false) (toggles : line.toLower = "verbose-mode") :
      Reply stack limit verbose line ("[mode] >>> Verbose mode " ++ (if verbose then "OFF" else "ON") ++ "\n")
        (!verbose)
  | answered {said : String} (asks : Asks line) (answers : Answer stack verbose limit line said) :
      Reply stack limit verbose line said verbose

inductive Dialogue (stack : Stack) (limit : Int) : Bool → List String → String → Bool → Prop where
  | nil (verbose : Bool) : Dialogue stack limit verbose [] "" verbose
  | cons {verbose between after : Bool} {line said later : String} {rest : List String}
      (reply : Reply stack limit verbose line said between) (others : Dialogue stack limit between rest later after) :
      Dialogue stack limit verbose (line :: rest) (prompt ++ said ++ later) after

def goodbye (lines : List String) : String :=
  (if lines.any isLeave then "" else "\n") ++ farewell ++ "\n"

theorem fits_shown : Report.Fits stack (shown verbose) limit source :=
  Report.fits_unwanted rfl

theorem evaluate_ok {value : Int} (valued : calculate stack source limit = .ok value) :
    evaluate stack verbose limit source =
    ⟨Printout.append ⟨Report.forms stack (shown verbose) limit source, ""⟩ (Report.numeral value >>= Run.say).printed,
      (Report.numeral value >>= Run.say).ending⟩ := by
  change (Report.stages stack (shown verbose) limit source).attempt >>= _ = _
  rw [Report.stages_eq fits_shown, valued, Run.attempt_bind]

theorem evaluate_valued {value : Int} (valued : calculate stack source limit = .ok value)
    (short : Text.Numeral.Short value) : evaluate stack verbose limit source =
      ⟨⟨Report.forms stack (shown verbose) limit source ++ (toString value ++ "\n"), ""⟩, .ok ()⟩ := by
  rw [evaluate_ok valued, Report.numeral_short short]
  rfl

/-- The value is put on a line only when the calculation is over, so its length is no fault of the expression. -/
theorem evaluate_long {value : Int} (valued : calculate stack source limit = .ok value)
    (long : ¬ Text.Numeral.Short value) : evaluate stack verbose limit source =
      ⟨⟨Report.forms stack (shown verbose) limit source, ""⟩, .error .longNumber⟩ := by
  rw [evaluate_ok valued, Report.numeral_long long, Run.lift_error_bind]
  change (⟨Printout.append _ .empty, _⟩ : Run Unit) = _
  rw [Printout.append_empty]
  rfl

theorem evaluate_reported {failure : Failure} {diagnostic : Diagnostic}
    (failed : calculate stack source limit = .error failure) (reported : failure.diagnostic? = some diagnostic) :
    evaluate stack verbose limit source = ⟨⟨Report.forms stack (shown verbose) limit source ++
      ("[error] >>>\n" ++ diagnostic.render source ++ "\n"), ""⟩, .ok ()⟩ := by
  change (Report.stages stack (shown verbose) limit source).attempt >>= _ = _
  rw [Report.stages_eq fits_shown, failed, Run.attempt_bind]
  simp only [reported]
  change (⟨Printout.append _ (Run.say _ >>= fun _ => Report.drawing diagnostic source >>= Run.say).printed,
    (Run.say _ >>= fun _ => Report.drawing diagnostic source >>= Run.say).ending⟩ : Run Unit) = _
  rw [Report.drawing_eq failed reported, Run.say_eq, Run.bind_ok]
  rfl

theorem evaluate_unreported {failure : Failure} (failed : calculate stack source limit = .error failure)
    (unreported : failure.diagnostic? = none) :
    evaluate stack verbose limit source = ⟨⟨Report.forms stack (shown verbose) limit source, ""⟩, .error failure⟩ := by
  change (Report.stages stack (shown verbose) limit source).attempt >>= _ = _
  rw [Report.stages_eq fits_shown, failed, Run.attempt_bind]
  simp only [unreported]
  change (⟨Printout.append _ .empty, _⟩ : Run Unit) = _
  rw [Printout.append_empty]
  rfl

theorem Answer.evaluates (answers : Answer stack verbose limit source text) :
    evaluate stack verbose limit source = ⟨⟨text, ""⟩, .ok ()⟩ := by
  cases answers with
  | valued valued short => exact evaluate_valued valued short
  | refused failed reported => exact evaluate_reported failed reported

theorem Unanswered.evaluates {failure : Failure} (unanswered : Unanswered stack limit source failure) :
    evaluate stack verbose limit source = ⟨⟨Report.forms stack (shown verbose) limit source, ""⟩, .error failure⟩ := by
  cases unanswered with
  | long valued long => exact evaluate_long valued long
  | exhausted failed => exact evaluate_unreported failed rfl

/-- Every expression has an answer, or one of the two failures in place of it. -/
theorem answered_or_unanswered (positive : 1 ≤ limit) (verbose : Bool) (source : String) :
    (∃ answer, Answer stack verbose limit source answer) ∨ ∃ failure, Unanswered stack limit source failure := by
  cases outcome : calculate stack source limit with
  | ok value =>
      by_cases short : Text.Numeral.Short value
      · exact Or.inl ⟨_, .valued outcome short⟩
      · exact Or.inr ⟨_, .long outcome short⟩
  | error failure =>
      rcases calculate_reported positive outcome with ⟨diagnostic, reported⟩ | ⟨rfl, high⟩
      · exact Or.inl ⟨_, .refused outcome reported⟩
      · exact Or.inr ⟨_, .exhausted outcome high⟩

theorem answerable_of_writable (low : limit ≤ stack.groups) (writable : Report.Writable stack limit source) :
    Answerable stack limit source := by
  intro failure unanswered
  cases unanswered with
  | long valued long => exact long (writable _ valued)
  | exhausted failed high => omega

/-! One line. -/

theorem request_leave (leaves : isLeave line = true) : request line = .leave := by
  change (if isLeave line = true then Request.leave else _) = .leave
  rw [if_pos leaves]

theorem request_stays (stays : isLeave line = false) : request line =
    if InputLine.isSilent line then .ignore
    else if line.toLower = "verbose-mode" then .toggle
    else .evaluate line := by
  change (if isLeave line = true then Request.leave else _) = _
  rw [if_neg (by simp [stays])]

theorem request_asks (stays : isLeave line = false) (asks : Asks line) : request line = .evaluate line := by
  rw [request_stays stays, if_neg (by simp [asks.1]), if_neg asks.2]

theorem answer_evaluate {printed : Printout} {ending : Except Failure Unit}
    (evaluated : evaluate stack verbose limit source = ⟨printed, ending⟩) :
    answer stack verbose limit (.evaluate source) = ⟨printed, ending.map fun _ => verbose⟩ := by
  change (evaluate stack verbose limit source >>= fun _ => pure verbose) = _
  rw [evaluated]
  cases ending with
  | error failure => rfl
  | ok done =>
      rw [Run.bind_ok, Run.pure_eq, Printout.append_empty]
      rfl

theorem Reply.answers {mode : Bool} (stays : isLeave line = false) (reply : Reply stack limit verbose line text mode) :
    answer stack verbose limit (request line) = ⟨⟨text, ""⟩, .ok mode⟩ := by
  cases reply with
  | silent silent =>
      rw [request_stays stays, if_pos silent]
      rfl
  | toggled loud toggles =>
      rw [request_stays stays, if_neg (by simp [loud]), if_pos toggles]
      change (Run.say _ >>= fun _ => pure (!verbose)) = _
      rw [Run.say_eq, Run.bind_ok, Run.pure_eq, Printout.append_empty]
  | answered asks answers =>
      rw [request_asks stays asks, answer_evaluate answers.evaluates]
      rfl

theorem reply_or_unanswered (positive : 1 ≤ limit) (verbose : Bool) (line : String) :
    (∃ text mode, Reply stack limit verbose line text mode) ∨
      Asks line ∧ ∃ failure, Unanswered stack limit line failure := by
  by_cases silent : InputLine.isSilent line = true
  · exact Or.inl ⟨_, _, .silent silent⟩
  · have loud : InputLine.isSilent line = false := by simpa using silent
    by_cases toggles : line.toLower = "verbose-mode"
    · exact Or.inl ⟨_, _, .toggled loud toggles⟩
    · have asks : Asks line := ⟨loud, toggles⟩
      rcases answered_or_unanswered positive verbose line with ⟨said, answers⟩ | unanswered
      · exact Or.inl ⟨_, _, .answered asks answers⟩
      · exact Or.inr ⟨asks, unanswered⟩

/-! One turn: what stands between a prompt and the next one. -/

theorem turn_leave (leaves : isLeave line = true) :
    turn stack limit verbose (some line) = ⟨⟨farewell ++ "\n", ""⟩, .ok none⟩ := by
  rw [turn, request_leave leaves]
  rfl

theorem turn_stays (stays : isLeave line = false) : turn stack limit verbose (some line) =
    answer stack verbose limit (request line) >>= fun mode => pure (some mode) := by
  have remains : request line ≠ .leave := by
    rw [request_stays stays]
    split <;> [nofun; split <;> nofun]
  rw [turn]
  cases asked : request line with
  | leave => exact absurd asked remains
  | _ => rfl

theorem turn_replied {mode : Bool} (stays : isLeave line = false) (reply : Reply stack limit verbose line text mode) :
    turn stack limit verbose (some line) = ⟨⟨text, ""⟩, .ok (some mode)⟩ := by
  rw [turn_stays stays, reply.answers stays, Run.bind_ok, Run.pure_eq, Printout.append_empty]

theorem turn_unanswered {failure : Failure} (stays : isLeave line = false) (asks : Asks line)
    (unanswered : Unanswered stack limit line failure) : turn stack limit verbose (some line) =
      ⟨⟨Report.forms stack (shown verbose) limit line, ""⟩, .error failure⟩ := by
  rw [turn_stays stays, request_asks stays asks, answer_evaluate unanswered.evaluates]
  rfl

theorem converse_next {mode : Bool} (turned : turn stack limit verbose (some line) = ⟨⟨text, ""⟩, .ok (some mode)⟩) :
    converse stack limit verbose (line :: rest) =
      ⟨Printout.append ⟨prompt ++ text, ""⟩ (converse stack limit mode rest).printed,
        (converse stack limit mode rest).ending⟩ := by
  rw [converse, turned]
  change (⟨Printout.append ⟨prompt, ""⟩ _, _⟩ : Run Unit) = _
  rw [Run.bind_ok]
  simp [Printout.append, String.append_assoc]

theorem converse_stopped {failure : Failure}
    (turned : turn stack limit verbose (some line) = ⟨⟨text, ""⟩, .error failure⟩) :
    converse stack limit verbose (line :: rest) = ⟨⟨prompt ++ text, ""⟩, .error failure⟩ := by
  rw [converse, turned]
  rfl

theorem converse_over (turned : turn stack limit verbose (some line) = ⟨⟨text, ""⟩, .ok none⟩) :
    converse stack limit verbose (line :: rest) = ⟨⟨prompt ++ text, ""⟩, .ok ()⟩ := by
  rw [converse, turned]
  change (⟨Printout.append ⟨prompt, ""⟩ (Printout.append ⟨text, ""⟩ .empty), _⟩ : Run Unit) = _
  rw [Printout.append_empty]
  rfl

theorem converse_goodbye (lines : List String) :
    converse stack limit verbose (lines.dropWhile fun line => !isLeave line) =
      ⟨⟨prompt ++ goodbye lines, ""⟩, .ok ()⟩ := by
  induction lines with
  | nil => rfl
  | cons line rest ih =>
      cases leaves : isLeave line with
      | false =>
          have same : goodbye (line :: rest) = goodbye rest := by simp [goodbye, leaves]
          rw [List.dropWhile_cons_of_pos (by simp [leaves]), same]
          exact ih
      | true =>
          have own : goodbye (line :: rest) = farewell ++ "\n" := by simp [goodbye, leaves]
          rw [List.dropWhile_cons_of_neg (by simp [leaves]), own, converse_over (turn_leave leaves)]

theorem converse_after (positive : 1 ≤ limit) (verbose : Bool) {earlier : List String}
    (stay : ∀ line ∈ earlier, isLeave line = false)
    (answerable : ∀ line ∈ earlier, Asks line → Answerable stack limit line) (rest : List String) :
    ∃ text after, Dialogue stack limit verbose earlier text after ∧
      converse stack limit verbose (earlier ++ rest) =
        ⟨Printout.append ⟨text, ""⟩ (converse stack limit after rest).printed,
          (converse stack limit after rest).ending⟩ := by
  -- A line may change the mode in which the others are answered.
  induction earlier generalizing verbose with
  | nil => exact ⟨"", verbose, .nil verbose, by simp [Printout.append]⟩
  | cons line earlier ih =>
      rcases reply_or_unanswered positive verbose line with ⟨said, mode, reply⟩ | ⟨asks, failure, unanswered⟩
      · obtain ⟨later, after, others, converses⟩ := ih mode (fun next member => stay next (.tail _ member))
          (fun next member => answerable next (.tail _ member))
        refine ⟨_, after, .cons reply others, ?_⟩
        rw [List.cons_append, converse_next (turn_replied (stay line (.head _)) reply), converses]
        simp [Printout.append, String.append_assoc]
      · exact absurd unanswered (answerable line (.head _) asks _)

theorem spoken_stay (lines : List String) : ∀ line ∈ spoken lines, isLeave line = false := by
  intro line member
  simpa using List.mem_takeWhile_imp member

theorem spoken_append (lines : List String) :
    spoken lines ++ lines.dropWhile (fun line => !isLeave line) = lines :=
  List.takeWhile_append_dropWhile

theorem run_eq {printed : Printout} {ending : Except Failure Unit}
    (converses : converse stack limit verbose (InputLine.ofLines lines) = ⟨printed, ending⟩) :
    run stack verbose limit lines = ⟨Printout.append ⟨greeting ++ "\n", ""⟩ printed, ending⟩ := by
  rw [run, converses]
  rfl

theorem run_dialogue (positive : 1 ≤ limit) (verbose : Bool)
    (answerable : ∀ line ∈ spoken (InputLine.ofLines lines), Asks line → Answerable stack limit line) :
    ∃ text after, Dialogue stack limit verbose (spoken (InputLine.ofLines lines)) text after ∧
      run stack verbose limit lines =
        ⟨⟨greeting ++ "\n" ++ (text ++ (prompt ++ goodbye (InputLine.ofLines lines))), ""⟩, .ok ()⟩ := by
  obtain ⟨text, after, dialogue, converses⟩ :=
    converse_after positive verbose (spoken_stay _) answerable ((InputLine.ofLines lines).dropWhile _)
  rw [spoken_append, converse_goodbye] at converses
  exact ⟨text, after, dialogue, run_eq converses⟩

/-- A conversation answers every line up to the one that leaves, or to the end of its input, and takes its leave. Only
a line that asks for a value too long to be written, or for more groups than the stack holds, ends it before. -/
theorem run_answers (positive : 1 ≤ limit) (verbose : Bool) (lines : List String) :
    ((∀ line ∈ spoken (InputLine.ofLines lines), Asks line → Answerable stack limit line) →
      ∃ text after, Dialogue stack limit verbose (spoken (InputLine.ofLines lines)) text after ∧
        run stack verbose limit lines =
          ⟨⟨greeting ++ "\n" ++ (text ++ (prompt ++ goodbye (InputLine.ofLines lines))), ""⟩, .ok ()⟩) ∧
    ∀ earlier line later failure, spoken (InputLine.ofLines lines) = earlier ++ line :: later →
      (∀ before ∈ earlier, Asks before → Answerable stack limit before) →
      Asks line → Unanswered stack limit line failure →
      ∃ text after, Dialogue stack limit verbose earlier text after ∧
        run stack verbose limit lines =
          ⟨⟨greeting ++ "\n" ++ (text ++ (prompt ++ Report.forms stack (shown after) limit line)), ""⟩,
            .error failure⟩ := by
  constructor
  · exact run_dialogue positive verbose
  · intro earlier line later failure split answerable asks unanswered
    have stay := spoken_stay (InputLine.ofLines lines)
    rw [split] at stay
    obtain ⟨text, after, dialogue, converses⟩ :=
      converse_after positive verbose (fun before member => stay before (by simp [member])) answerable
        (line :: (later ++ (InputLine.ofLines lines).dropWhile fun line => !isLeave line))
    -- The line that has no answer is the first one of what is left after the answered ones.
    have whole : earlier ++ line :: (later ++ (InputLine.ofLines lines).dropWhile fun line => !isLeave line) =
        InputLine.ofLines lines := by
      rw [← List.cons_append, ← List.append_assoc, ← split, spoken_append]
    rw [whole, converse_stopped (turn_unanswered (stay line (by simp)) asks unanswered)] at converses
    exact ⟨text, after, dialogue, run_eq converses⟩

theorem run_answers_samples : (1 : Int) ≤ 100 ∧
    ∃ text after, Dialogue .ofCommand 100 false ["2*3", "1/0"] text after ∧
      run .ofCommand false 100 ["2*3\r", "1/0", "quit", "1+1"] =
        ⟨⟨greeting ++ "\n" ++ (text ++ (prompt ++ (farewell ++ "\n"))), ""⟩, .ok ()⟩ := by
  have entered : InputLine.ofLines ["2*3\r", "1/0", "quit", "1+1"] = ["2*3", "1/0", "quit", "1+1"] := by decide
  obtain ⟨answers, _⟩ :=
    @run_answers .ofCommand 100 (by decide : (1 : Int) ≤ 100) false ["2*3\r", "1/0", "quit", "1+1"]
  have heard : spoken ["2*3", "1/0", "quit", "1+1"] = ["2*3", "1/0"] := by decide
  rw [entered, heard] at answers
  have answerable : ∀ line ∈ ["2*3", "1/0"], Asks line → Answerable .ofCommand 100 line := by
    intro line member _
    exact answerable_of_writable (by decide) (Report.samples_writable line member)
  obtain ⟨text, after, dialogue, ran⟩ := answers answerable
  exact ⟨by decide, text, after, dialogue, ran⟩

/-! A line that is asked for and cannot be answered. -/

theorem lexical_asks (known : Lexical line) (plain : InputLine.Plain line) :
    Asks line ∧ isLeave line = false := by
  constructor
  · refine ⟨InputLine.lexical_loud known plain, ?_⟩
    intro toggles
    -- No character of an expression has a letter for its lower case.
    have letter : 'v' ∈ (line.map Char.toLower).toList := by
      change 'v' ∈ line.toLower.toList
      rw [toggles]
      decide
    rw [String.toList_map] at letter
    obtain ⟨c, member, lowered⟩ := List.mem_map.mp letter
    have none : ∀ c ∈ Reader.alphabet, c.toLower ≠ 'v' := List.all_iff_forall_prop.mp (by decide)
    exact none c (known c member) lowered
  · have unspelled {word : String} {c : Char} (outside : c ∉ Reader.alphabet) (spelled : c ∈ word.toList) :
        line ≠ word := by
      rintro rfl
      exact outside (known c spelled)
    have exit : line ≠ "exit" := @unspelled "exit" 'e' (by decide) (by decide)
    have quit : line ≠ "quit" := @unspelled "quit" 'q' (by decide) (by decide)
    simp [isLeave, exit, quit]

theorem run_answers_longProduct :
    run .ofCommand false 100 (Text.Stream.lines .feeds (longProduct ++ ("\n" ++ "1+1\nexit\n"))) =
      ⟨⟨greeting ++ "\n" ++ prompt, ""⟩, .error .longNumber⟩ := by
  obtain ⟨value, valued, long⟩ := @longProduct_value .ofCommand 100 (by decide) (by decide)
  obtain ⟨asks, stays⟩ := lexical_asks longProduct_lexical longProduct_plain
  have stops := @turn_unanswered .ofCommand false 100 _ _ stays asks (.long valued long)
  have silent : Report.forms .ofCommand (shown false) 100 longProduct = "" := Report.forms_plain 100 longProduct
  rw [silent] at stops
  have converses := @converse_stopped .ofCommand false 100 _ _
    (InputLine.ofLines (Text.Stream.lines .feeds "1+1\nexit\n")) _ stops
  rw [← InputLine.ofLines_plain longProduct_plain, String.append_empty] at converses
  exact run_eq converses

end DigitCalc.Session
