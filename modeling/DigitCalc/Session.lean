import DigitCalc.InputLine
import DigitCalc.Report

/-! A conversation line by line. The one thing remembered from line to line is whether intermediate forms are shown.
-/
namespace DigitCalc.Session

variable (stack : Stack)

def evaluate (verbose : Bool) (limit : Int) (source : String) : Run Unit := do
  let display := { Display.plain with tokens := verbose, tree := verbose }
  match ← (Report.stages stack display limit source).attempt with
  | .ok value => Run.say (← Report.numeral value)
  | .error failure =>
      match failure.diagnostic? with
      | some diagnostic => do
          Run.say "[error] >>>"
          Run.say (← Report.drawing diagnostic source)
      | none => Run.lift (.error failure)

inductive Request where
  | leave
  | ignore
  | toggle
  | evaluate (source : String)
  deriving DecidableEq, Repr

/-- What a line, without the white space around it, asks for. -/
def request (line : String) : Request :=
  if line = "exit" || line = "quit" then .leave
  else if InputLine.isSilent line then .ignore
  else if line.toLower = "verbose-mode" then .toggle
  else .evaluate line

def greeting : String := "arith REPL. Type 'exit' or 'quit' to leave."

def farewell : String := "Exiting arith REPL."

def prompt : String := ">>> "

def leave : Run Unit := Run.say farewell

/-- Input that ends without a leave-taking leaves a prompt standing, whose line is ended first. -/
def breakOff : Run Unit := Run.say ("\n" ++ farewell)

def answer (verbose : Bool) (limit : Int) : Request → Run Bool
  | .leave | .ignore => return verbose
  | .toggle => do
      Run.say ("[mode] >>> Verbose mode " ++ (if verbose then "OFF" else "ON"))
      return !verbose
  | .evaluate source => do
      evaluate stack verbose limit source
      return verbose

/-- What follows a prompt: the answer to a line, or the end of the input. Nothing is left to remember when the session
is over. -/
def turn (limit : Int) (verbose : Bool) : Option String → Run (Option Bool)
  | none => do
      breakOff
      return none
  | some line =>
      match request line with
      | .leave => do
          leave
          return none
      | request => do
          let verbose ← answer stack verbose limit request
          return some verbose

def converse (limit : Int) : Bool → List String → Run Unit
  | verbose, [] => do
      Run.write prompt
      let _ ← turn stack limit verbose none
  | verbose, line :: rest => do
      Run.write prompt
      match ← turn stack limit verbose (some line) with
      | none => return ()
      | some verbose => converse limit verbose rest

def run (verbose : Bool) (limit : Int) (lines : List String) : Run Unit := do
  Run.say greeting
  converse stack limit verbose (InputLine.ofLines lines)

end DigitCalc.Session
