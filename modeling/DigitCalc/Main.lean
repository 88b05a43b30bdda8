import DigitCalc.Command

/-! The command on a real terminal. A session answers every line as it comes in; a batch reads at most one file. -/
namespace DigitCalc

def emit (printed : Printout) : IO Unit := do
  IO.print printed.out
  IO.eprint printed.err
  (← IO.getStdout).flush

def finish (run : Run Ending) : IO UInt32 := do
  emit run.printed
  match run.ending with
  | .ok .returned => return 0
  | .ok (.exited status) => return status.toUInt32
  | .error failure =>
      IO.eprintln failure.message
      return 1

def fileFault : IO.Error → FileFault
  | .noFileOrDirectory .. => .absent
  | .inappropriateType (some _) .. => .notAFolder
  | .invalidArgument .. => .nameTooLong
  | .permissionDenied .. => .denied
  | _ => .isFolder

def readBytes (path : String) : IO (Except FileFault (List UInt8)) := do
  try
    let content ← IO.FS.readBinFile path
    return .ok content.toList
  catch fault => return .error (fileFault fault)

def showPrompt : IO Unit := do
  IO.print Session.prompt
  (← IO.getStdout).flush

/-- Reads up to the next line feed, which the white space around a line covers. -/
partial def converse (stack : Stack) (limit : Int) (verbose : Bool) : IO UInt32 := do
  showPrompt
  let text ← (← IO.getStdin).getLine
  let line := if text.isEmpty then none else some (Text.Blank.trim text)
  let turn := Session.turn stack limit verbose line
  match turn.ending with
  | .ok (some verbose) => do
      emit turn.printed
      converse stack limit verbose
  | _ => finish (turn.andThen fun _ => .done .returned)

end DigitCalc

open DigitCalc in
def main (arguments : List String) : IO UInt32 := do
  match Options.read arguments with
  | .error stop => finish (Command.refuse stop)
  | .ok options =>
      match Command.ofOptions options with
      | .session verbose limit =>
          emit (Run.say Session.greeting).printed
          converse .ofCommand limit verbose
      | .batch display limit origin => do
          let content ← match origin.path? with
            | none => pure (.error .absent)
            | some path => readBytes path
          finish (Command.runBatch .ofCommand display limit (fun _ => content) origin)
