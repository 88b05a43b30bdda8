import DigitCalc.Index
import DigitCalc.Text.Line
import DigitCalc.Text.Quoted

/-! Messages for the author of an expression. A message from the lexer or from evaluation has a column, and a caret is
drawn under that column of the line it belongs to; a message from the parser counts tokens and stands alone. Where the
column lies outside the text that is shown, no caret is drawn. -/
namespace DigitCalc

inductive Origin where
  | general
  | lexer
  | parser
  | evaluation
  deriving DecidableEq, Repr

def Origin.name : Origin → String
  | .general => "CalcError"
  | .lexer => "LexError"
  | .parser => "ParseError"
  | .evaluation => "EvalError"

structure Diagnostic where
  origin : Origin
  message : String
  position : Option Int
  line : Option Int
  deriving DecidableEq, Repr

namespace Diagnostic

def text (diagnostic : Diagnostic) : String :=
  match diagnostic.position with
  | none => diagnostic.message
  | some position => diagnostic.message ++ " (at position " ++ toString position ++ ")"

def header (diagnostic : Diagnostic) : String :=
  diagnostic.origin.name ++ ": " ++ diagnostic.text

def shownLines (source : String) : List String :=
  match Text.Line.shown source with
  | [] => [source]
  | lines => lines

/-- Lines count from one; a line that is not known, or is zero, is the first one. -/
def shownLine? (source : String) (line : Option Int) : Option String :=
  let number := match line with
    | none | some 0 => 1
    | some n => n
  if 1 ≤ number then (shownLines source)[(number - 1).toNat]? else none

def underlined (line : String) (position : Int) : String :=
  "\n  " ++ line ++ "\n  " ++ String.ofList (List.replicate (position - 1).toNat ' ') ++ "^"

def shown? (diagnostic : Diagnostic) (source : String) : Option (String × Int) :=
  match diagnostic.origin, diagnostic.position, shownLine? source diagnostic.line with
  | .parser, _, _ => none
  | _, some position, some line => if position ≤ line.length then some (line, position) else none
  | _, _, _ => none

def picture (diagnostic : Diagnostic) (source : String) : String :=
  match diagnostic.shown? source with
  | none => ""
  | some (line, position) => underlined line position

def render (diagnostic : Diagnostic) (source : String) : String :=
  diagnostic.header ++ diagnostic.picture source

/-- Whether the blanks before the caret can be counted. A column of a text always can; a made-up one may be too low. -/
def isDrawable (diagnostic : Diagnostic) (source : String) : Bool :=
  match diagnostic.shown? source with
  | none => true
  | some (_, position) => Index.least ≤ position - 1

def draw? (diagnostic : Diagnostic) (source : String) : Option String :=
  if diagnostic.isDrawable source then some (diagnostic.render source) else none

def unrecognized (characters : String) (position line : Option Int) : Diagnostic :=
  ⟨.lexer, "unrecognized character " ++ Text.Quoted.quote characters, position, line⟩

end Diagnostic

end DigitCalc
