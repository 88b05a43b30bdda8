import DigitCalc.Batch
import DigitCalc.Options
import DigitCalc.Session

/-! The command as a whole: its arguments decide between help, a complaint about the arguments, a session and a batch.
A session returns; everything else ends with an exit status, also when the batch itself cannot be had. -/
namespace DigitCalc

inductive Command where
  | session (verbose : Bool) (limit : Int)
  | batch (display : Display) (limit : Int) (origin : Batch.Origin)
  deriving DecidableEq, Repr

inductive Ending where
  | returned
  | exited (status : Nat)
  deriving DecidableEq, Repr

namespace Command

def usage : String :=
  "usage: arith [-h] [-s] [--tokens] [--ast] [--json] [-p] [--max-depth N]\n" ++
  "             [--repl] [--verbose]\n" ++
  "             [source]\n"

def help : String :=
  usage ++ "\n" ++
  "positional arguments:\n" ++
  "  source         Filename or expression (with -s)\n\n" ++
  "options:\n" ++
  "  -h, --help     show this help message and exit\n" ++
  "  -s, --string   Interpret source as an expression\n" ++
  "  --tokens       Print the token list\n" ++
  "  --ast          Print the AST as infix text\n" ++
  "  --json         Print the AST as JSON\n" ++
  "  -p, --pretty   Show output with banners\n" ++
  "  --max-depth N  Maximum nesting of parentheses and unary minus (default: 100)\n" ++
  "  --repl         Launch interactive REPL instead of evaluating\n" ++
  "  --verbose      Verbose REPL mode (if --repl)\n"

def ofOptions (options : Options) : Command :=
  let display : Display := ⟨options.tokens, options.tree, options.json, options.pretty⟩
  match options.session, options.source with
  | false, some source =>
      .batch display options.limit (if options.isString then .text source else .file source)
  | _, _ => .session options.verbose options.limit

/-- Failures of the batch as a whole are reported like those of an expression; running out of stack is not one. -/
def runBatch (stack : Stack) (display : Display) (limit : Int) (files : Files) (origin : Batch.Origin) :
    Run Ending := do
  match ← (Batch.run stack display limit files origin).attempt with
  | .ok status => return .exited status
  | .error failure =>
      if failure.isStackLimit then Run.lift (.error failure)
      else do
        Run.complain ("[error] >>> " ++ failure.message)
        return .exited 1

/-- A session takes its lines from the standard input. -/
def execute (stack : Stack) (files : Files) (lines : List String) : Command → Run Ending
  | .session verbose limit => do
      Session.run stack verbose limit lines
      return .returned
  | .batch display limit origin => runBatch stack display limit files origin

def refuse : Options.Stop → Run Ending
  | .help => do
      Run.write help
      return .exited 0
  | .usage fault => ⟨⟨"", usage ++ "arith: error: " ++ fault.message ++ "\n"⟩, .ok (.exited 2)⟩
  | .noLimit => Run.lift (.error .noLimit)

def run (stack : Stack) (files : Files) (lines : List String) (arguments : List String) : Run Ending :=
  match Options.read arguments with
  | .ok options => execute stack files lines (ofOptions options)
  | .error stop => refuse stop

end Command

end DigitCalc
