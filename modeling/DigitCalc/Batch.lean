import DigitCalc.InputLine
import DigitCalc.Report

/-! Expressions from a file or from the command itself, reported one after the other. No fault of an expression keeps
the later ones from being reported. -/
namespace DigitCalc.Batch

def expressions (text : String) : List String :=
  (InputLine.ofText text).filter fun line => !InputLine.isSilent line

/-- No file has a name with a zero character. -/
def isNamable (path : String) : Bool :=
  !path.toList.contains '\x00'

def readFile (files : Files) (path : String) : Except Failure String :=
  if isNamable path then
    match files path with
    | .error fault => .error (.file fault path)
    | .ok bytes => (Text.Utf8.read bytes).mapError .undecodable
  else .error .unnamable

def expressionsIn (files : Files) (path : String) : Except Failure (List String) :=
  (readFile files path).map expressions

def suffix : String := ".arith"

def isExpressionFile (path : String) : Bool :=
  path.endsWith suffix

inductive Origin where
  | text (source : String)
  | file (path : String)
  deriving DecidableEq, Repr

/-- The file that has to be read, unless it is refused by its name. -/
def Origin.path? : Origin → Option String
  | .text _ => none
  | .file path => if isExpressionFile path && isNamable path then some path else none

def gather (files : Files) : Origin → Except Failure (List String)
  | .text source => .ok [source]
  | .file path => if isExpressionFile path then expressionsIn files path else .error .notAnExpressionFile

def rule : String := String.ofList (List.replicate 20 '=')

section Runs
variable (stack : Stack)

def reportAll (display : Display) (limit : Int) : List String → Run Nat
  | [] => return 0
  | source :: rest => do
      let hasValue ← Report.run stack display limit source
      let failures ← reportAll display limit rest
      return if hasValue then failures else failures + 1

/-- The exit status: one if any expression has no value. -/
def run (display : Display) (limit : Int) (files : Files) (origin : Origin) : Run Nat := do
  let sources ← Run.lift (gather files origin)
  let count := toString sources.length
  Run.sayIf display.pretty (rule ++ "\narith (" ++ count ++ " expression(s))\n" ++ rule)
  let failures ← reportAll stack display limit sources
  Run.sayIf (display.pretty && failures ≠ 0) ("(" ++ toString failures ++ " of " ++ count ++ " failed)")
  return if failures = 0 then 0 else 1

end Runs

end DigitCalc.Batch
