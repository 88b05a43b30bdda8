import DigitCalc.Proofs.Conversation
import Mathlib.Logic.Function.Iterate

/-! A conversation as it is written down. Behind its prompt every line has the answer that it would have alone, in the
mode that the first one was in, turned once for each change of mode before it. Nothing else is carried from one line to
a later one, and what comes after the line that leaves is not looked at. -/
namespace DigitCalc.Session
variable {stack : Stack} {limit : Int} {verbose after : Bool} {line text : String} {lines : List String}

def toggles (line : String) : Bool :=
  line.toLower = "verbose-mode"

/-- The mode behind some lines. -/
def modeAfter (verbose : Bool) (lines : List String) : Bool :=
  not^[lines.countP toggles] verbose

def answerText (stack : Stack) (limit : Int) (verbose : Bool) (line : String) : String :=
  if InputLine.isSilent line then ""
  else if toggles line then "[mode] >>> Verbose mode " ++ (if verbose then "OFF" else "ON") ++ "\n"
  else (evaluate stack verbose limit line).printed.out

/-- Prompts and answers, each in the mode behind the lines before it. -/
def transcript (stack : Stack) (limit : Int) (verbose : Bool) (lines : List String) : String :=
  String.join (lines.mapIdx fun i line => prompt ++ answerText stack limit (modeAfter verbose (lines.take i)) line)

/-- Upper and lower case are the same in a change of mode. -/
theorem toggles_iff (line : String) :
    toggles line = true ↔ line.toList.map Char.toLower = "verbose-mode".toList := by
  rw [toggles, decide_eq_true_iff, ← String.toList_map, String.toList_inj]
  rfl

theorem silent_keeps (silent : InputLine.isSilent line = true) : toggles line = false := by
  have first : line = "" ∨ line.toList.head? = some '#' := by simpa [InputLine.isSilent] using silent
  rw [← Bool.not_eq_true, toggles_iff]
  intro letters
  rcases first with rfl | sharp
  · cases letters
  · have head := congrArg List.head? letters
    rw [List.head?_map, sharp] at head
    exact absurd head (by decide)

theorem modeAfter_cons (verbose : Bool) (line : String) (rest : List String) :
    modeAfter verbose (line :: rest) = modeAfter (modeAfter verbose [line]) rest := by
  cases turns : toggles line <;> simp [modeAfter, turns]

theorem transcript_cons (limit : Int) (verbose : Bool) (line : String) (rest : List String) :
    transcript stack limit verbose (line :: rest) =
      prompt ++ answerText stack limit verbose line ++ transcript stack limit (modeAfter verbose [line]) rest := by
  have later (i : Nat) : modeAfter verbose ((line :: rest).take (i + 1)) =
      modeAfter (modeAfter verbose [line]) (rest.take i) := modeAfter_cons verbose line (rest.take i)
  rw [transcript, List.mapIdx_cons, String.join_cons]
  simp only [later]
  rfl

theorem Reply.written {mode : Bool} (reply : Reply stack limit verbose line text mode) :
    text = answerText stack limit verbose line ∧ mode = modeAfter verbose [line] := by
  cases reply with
  | silent silent => simp [answerText, modeAfter, silent, silent_keeps silent]
  | toggled loud turns =>
      have turns : toggles line = true := by simpa [toggles] using turns
      simp [answerText, modeAfter, loud, turns]
  | answered asks answers =>
      have keeps : toggles line = false := by simpa [toggles] using asks.2
      simp [answerText, modeAfter, asks.1, keeps, answers.evaluates]

theorem Dialogue.written (dialogue : Dialogue stack limit verbose lines text after) :
    text = transcript stack limit verbose lines := by
  induction dialogue with
  | nil verbose => rfl
  | cons reply others ih =>
      obtain ⟨rfl, rfl⟩ := reply.written
      rw [transcript_cons, ih]

theorem run_written (positive : 1 ≤ limit) (low : limit ≤ stack.groups) (verbose : Bool)
    (writable : ∀ line ∈ spoken (InputLine.ofLines lines), Asks line → Report.Writable stack limit line) :
    run stack verbose limit lines =
      ⟨⟨greeting ++ "\n" ++ transcript stack limit verbose (spoken (InputLine.ofLines lines)) ++ prompt ++
        goodbye (InputLine.ofLines lines), ""⟩, .ok ()⟩ := by
  have answerable : ∀ line ∈ spoken (InputLine.ofLines lines), Asks line → Answerable stack limit line :=
    fun line member asks => answerable_of_writable low (writable line member asks)
  obtain ⟨text, after, dialogue, ran⟩ := run_dialogue positive verbose answerable
  rw [ran, dialogue.written]
  simp only [String.append_assoc]

/-- A conversation is the greeting, the transcript of the lines up to the one that leaves, and the farewell. Inputs with
those same lines that leave in the same way make the same conversation. -/
theorem run_transcript (positive : 1 ≤ limit) (low : limit ≤ stack.groups) (verbose : Bool) (lines : List String)
    (writable : ∀ line ∈ spoken (InputLine.ofLines lines), Asks line → Report.Writable stack limit line) :
    run stack verbose limit lines =
      ⟨⟨greeting ++ "\n" ++ transcript stack limit verbose (spoken (InputLine.ofLines lines)) ++ prompt ++
        goodbye (InputLine.ofLines lines), ""⟩, .ok ()⟩ ∧
    ∀ others, spoken (InputLine.ofLines others) = spoken (InputLine.ofLines lines) →
      (InputLine.ofLines others).any isLeave = (InputLine.ofLines lines).any isLeave →
      run stack verbose limit others = run stack verbose limit lines := by
  have ran := run_written positive low verbose writable
  refine ⟨ran, ?_⟩
  intro others same leaves
  rw [← same] at writable
  have goodbyes : goodbye (InputLine.ofLines others) = goodbye (InputLine.ofLines lines) := by
    rw [goodbye, goodbye, leaves]
  rw [ran, run_written positive low verbose writable, same, goodbyes]

theorem run_transcript_turned : (1 : Int) ≤ 100 ∧ (100 : Int) ≤ Stack.ofCommand.groups ∧
    run .ofCommand false 100 ["2*3\r", " Verbose-MODE", "# note\r1+1", "1/0", "quit", "1+1"] =
      ⟨⟨greeting ++ "\n" ++ transcript .ofCommand 100 false ["2*3", "Verbose-MODE", "# note\r1+1", "1/0"] ++ prompt ++
        (farewell ++ "\n"), ""⟩, .ok ()⟩ := by
  have entered : InputLine.ofLines ["2*3\r", " Verbose-MODE", "# note\r1+1", "1/0", "quit", "1+1"] =
      ["2*3", "Verbose-MODE", "# note\r1+1", "1/0", "quit", "1+1"] := by decide
  have heard : spoken ["2*3", "Verbose-MODE", "# note\r1+1", "1/0", "quit", "1+1"] =
      ["2*3", "Verbose-MODE", "# note\r1+1", "1/0"] := by decide
  have parting : goodbye ["2*3", "Verbose-MODE", "# note\r1+1", "1/0", "quit", "1+1"] = farewell ++ "\n" := by decide
  have ran := @run_transcript .ofCommand 100 (by decide) (by decide) false
    ["2*3\r", " Verbose-MODE", "# note\r1+1", "1/0", "quit", "1+1"]
  rw [entered, heard, parting] at ran
  refine ⟨by decide, by decide, (ran ?_).1⟩
  intro line member asks value outcome
  simp only [List.mem_cons, List.not_mem_nil, or_false] at member
  rcases member with rfl | rfl | rfl | rfl
  · exact Report.samples_writable "2*3" (by simp) value outcome
  · exact absurd (of_decide_eq_true ((toggles_iff "Verbose-MODE").mpr (by decide))) asks.2
  · exact absurd asks.1 (by decide)
  · exact Report.samples_writable "1/0" (by simp) value outcome

end DigitCalc.Session
