import DigitCalc.Expr.Grammar
import DigitCalc.Text.Numeral

/-! The arguments of the command. An argument is a flag, a value or the mark after which every argument is a value.
The first value is the source, and what is left over is refused after everything else has been read; asking for help
ends the reading at once. -/
namespace DigitCalc

inductive Flag where
  | help
  | string
  | tokens
  | tree
  | json
  | pretty
  | limit
  | session
  | verbose
  deriving DecidableEq, Repr

namespace Flag

def all : List Flag := [.help, .string, .tokens, .tree, .json, .pretty, .limit, .session, .verbose]

def short? : Flag → Option Char
  | .help => some 'h'
  | .string => some 's'
  | .pretty => some 'p'
  | _ => none

def long : Flag → String
  | .help => "--help"
  | .string => "--string"
  | .tokens => "--tokens"
  | .tree => "--ast"
  | .json => "--json"
  | .pretty => "--pretty"
  | .limit => "--max-depth"
  | .session => "--repl"
  | .verbose => "--verbose"

def ofShort? (c : Char) : Option Flag :=
  all.find? fun flag => flag.short? == some c

def takesValue (flag : Flag) : Bool := flag = .limit

def name (flag : Flag) : String :=
  match flag.short? with
  | some c => "-" ++ String.singleton c ++ "/" ++ flag.long
  | none => flag.long

def ofExact? (text : String) : Option (Flag × Bool) :=
  match text.toList with
  | ['-', c] => (ofShort? c).map (·, true)
  | _ => (all.find? fun flag => flag.long == text).map (·, false)

def startingWith (text : List Char) : List Flag :=
  all.filter fun flag => text.isPrefixOf flag.long.toList

end Flag

inductive UsageFault where
  | ambiguous (argument : String) (flags : List Flag)
  | needlessValue (flag : Flag) (value : List Char)
  | noValue (flag : Flag)
  | notANumber (flag : Flag) (value : String)
  | leftOver (arguments : List String)
  | limitTooSmall
  deriving DecidableEq, Repr

def UsageFault.message : UsageFault → String
  | .ambiguous argument flags =>
      "ambiguous option: " ++ argument ++ " could match " ++ ", ".intercalate (flags.map Flag.long)
  | .needlessValue flag value =>
      "argument " ++ flag.name ++ ": ignored explicit argument " ++ Text.Quoted.quote (String.ofList value)
  | .noValue flag => "argument " ++ flag.name ++ ": expected one argument"
  | .notANumber flag value =>
      "argument " ++ flag.name ++ ": invalid int value: " ++ Text.Quoted.quote value
  | .leftOver arguments => "unrecognized arguments: " ++ " ".intercalate arguments
  | .limitTooSmall => "--max-depth must be a positive integer"

/-- An argument by its form. A flag may bring a value in the same argument; `isShort` tells which spelling it had. -/
inductive Word where
  | mark
  | value (text : String)
  | option (flag : Flag) (isShort : Bool) (attached : Option (List Char))
  | unknown (text : String)
  deriving DecidableEq, Repr

namespace Word

def text : Word → String
  | .mark => "--"
  | .value text | .unknown text => text
  | .option flag .. => flag.long

def isWhole (text : List Char) : Bool :=
  let tail := text.dropWhile fun c => (Text.DecimalDigit.digit? c).isSome
  tail.length < text.length && (tail = [] || tail = ['\n'])

/-- Negative numbers are values, though they start like flags. -/
def isNegativeNumber : List Char → Bool
  | '-' :: rest =>
      isWhole rest ||
        match rest.dropWhile fun c => (Text.DecimalDigit.digit? c).isSome with
        | '.' :: fraction => isWhole fraction
        | _ => false
  | _ => false

def cut (text : List Char) : List Char × Option (List Char) :=
  (text.takeWhile (· ≠ '='), (text.dropWhile (· ≠ '=')).tail?)

/-- A text that starts like a flag and spells none in full: a beginning of a long flag, a short flag with more after
it, a value after all, or a flag that does not exist. -/
def ofNearFlag (text : String) : Except UsageFault Word :=
  let characters := text.toList
  let value := if isNegativeNumber characters || characters.contains ' ' then .value text else .unknown text
  match characters with
  | '-' :: '-' :: _ =>
      let (beginning, attached) := cut characters
      match Flag.startingWith beginning with
      | [] => .ok value
      | [flag] => .ok (.option flag false attached)
      | flags => .error (.ambiguous text flags)
  | _ :: c :: more =>
      match Flag.ofShort? c with
      | some flag => .ok (.option flag true (some more))
      | none => .ok value
  | _ => .ok value

def ofText (text : String) : Except UsageFault Word :=
  match text.toList with
  | ['-'] => .ok (.value text)
  | '-' :: _ =>
      match Flag.ofExact? text with
      | some (flag, isShort) => .ok (.option flag isShort none)
      | none =>
          let (beginning, attached) := cut text.toList
          match attached, Flag.ofExact? (String.ofList beginning) with
          | some text, some (flag, isShort) => .ok (.option flag isShort (some text))
          | _, _ => ofNearFlag text
  | _ => .ok (.value text)

def ofArguments : List String → Except UsageFault (List Word)
  | [] => .ok []
  | "--" :: rest => .ok (.mark :: rest.map .value)
  | argument :: rest => do
      let word ← ofText argument
      return word :: (← ofArguments rest)

/-- Short flags may be joined, and each one but the last has the next one as its attached text. -/
def joined (flag : Flag) : List Char → Except UsageFault (List Flag)
  | [] => .ok [flag]
  | c :: more =>
      match Flag.ofShort? c with
      | none => .error (.needlessValue flag (c :: more))
      | some next => (joined next more).map (flag :: ·)

end Word

/-- How far the source has been read: it is `fresh` while the mark after it still belongs to it. -/
inductive SourceState where
  | wanted
  | fresh
  | settled
  deriving DecidableEq, Repr

def SourceState.interrupted : SourceState → SourceState
  | .wanted => .wanted
  | .fresh | .settled => .settled

structure Options where
  source : Option String
  isString : Bool
  tokens : Bool
  tree : Bool
  json : Bool
  pretty : Bool
  limit : Int
  session : Bool
  verbose : Bool
  deriving DecidableEq, Repr

namespace Options

def default : Options := ⟨none, false, false, false, false, false, Grammar.defaultLimit, false, false⟩

inductive Stop where
  | help
  | usage (fault : UsageFault)
  | noLimit
  deriving DecidableEq, Repr

/-- What is known so far: the arguments left over are kept newest first, and `hasLimit` is false after a limit that
was given as a bare mark. -/
structure Reading where
  options : Options
  source : SourceState
  leftOver : List String
  hasLimit : Bool
  deriving DecidableEq, Repr

namespace Reading

def start : Reading := ⟨default, .wanted, [], true⟩

def set (reading : Reading) (flag : Flag) : Except Stop Reading :=
  let options := reading.options
  match flag with
  | .help => .error .help
  | .string => .ok { reading with options := { options with isString := true } }
  | .tokens => .ok { reading with options := { options with tokens := true } }
  | .tree => .ok { reading with options := { options with tree := true } }
  | .json => .ok { reading with options := { options with json := true } }
  | .pretty => .ok { reading with options := { options with pretty := true } }
  | .session => .ok { reading with options := { options with session := true } }
  | .verbose => .ok { reading with options := { options with verbose := true } }
  | .limit => .error (.usage (.noValue .limit))

def setLimit (reading : Reading) (value : String) : Except Stop Reading :=
  match Text.Numeral.read? value with
  | some limit => .ok { reading with options := { reading.options with limit }, hasLimit := true }
  | none => .error (.usage (.notANumber .limit value))

/-- A mark is dropped wherever it stands, also where it was attached to a flag as its value. -/
def setAttached (reading : Reading) (flag : Flag) (isShort : Bool) (value : List Char) :
    Except Stop Reading :=
  if flag.takesValue then
    if value = ['-', '-'] then .ok { reading with hasLimit := false }
    else reading.setLimit (String.ofList value)
  else if isShort && value ≠ [] then
    match Word.joined flag value with
    | .error fault => .error (.usage fault)
    | .ok flags => flags.foldlM set reading
  else .error (.usage (.needlessValue flag value))

def setSource (reading : Reading) (text : String) : Reading :=
  { reading with options := { reading.options with source := some text }, source := .fresh }

def interrupted (reading : Reading) : Reading :=
  { reading with source := reading.source.interrupted }

def leave (reading : Reading) (word : Word) : Reading :=
  { reading.interrupted with leftOver := word.text :: reading.leftOver }

def passMark (reading : Reading) : Reading :=
  match reading.source with
  | .wanted | .fresh => reading.interrupted
  | .settled => reading.leave .mark

def passValue (reading : Reading) (text : String) : Reading :=
  match reading.source with
  | .wanted => reading.setSource text
  | .fresh | .settled => reading.leave (.value text)

def readAll : Reading → List Word → Except Stop Reading
  | reading, [] => .ok reading
  | reading, .mark :: rest => readAll reading.passMark rest
  | reading, .value text :: rest => readAll (reading.passValue text) rest
  | reading, .unknown text :: rest => readAll (reading.leave (.unknown text)) rest
  | reading, .option flag isShort (some value) :: rest => do
      readAll (← reading.interrupted.setAttached flag isShort value) rest
  | reading, .option .limit _ none :: .value value :: rest => do
      readAll (← reading.interrupted.setLimit value) rest
  | reading, .option flag _ none :: rest => do
      readAll (← reading.interrupted.set flag) rest

/-- Arguments left over are a worse fault than a bad limit. -/
def finish (reading : Reading) : Except Stop Options :=
  match reading.leftOver with
  | [] =>
      if !reading.hasLimit then .error .noLimit
      else if reading.options.limit < 1 then .error (.usage .limitTooSmall)
      else .ok reading.options
  | arguments => .error (.usage (.leftOver arguments.reverse))

end Reading

def read (arguments : List String) : Except Stop Options :=
  match Word.ofArguments arguments with
  | .error fault => .error (.usage fault)
  | .ok words => (Reading.start.readAll words).bind Reading.finish

end Options

end DigitCalc
