import DigitCalc.Token.Reader

/-! Sequences of calls on one reader. Every call gives an answer and leaves a reader for the next call, also when it
fails. A reader placed before the text refuses to look at any character and stays where it is. -/
namespace DigitCalc.Reader

inductive Call where
  | next
  | peek
  | atEnd
  | skip
  | token
  | iterate
  | rest
  deriving DecidableEq, Repr

inductive Answer where
  | nothing
  | truth (holds : Bool)
  | text (content : String)
  | token (token : Token)
  | tokens (tokens : List Token)
  | exhausted
  | pastEnd (here : Coordinates)
  | unrecognized (fault : Unrecognized)
  | misplaced (fault : Misplaced)
  deriving DecidableEq, Repr

def answer (reader : Reader) : Call → Answer × Reader
  | .next =>
      match reader.next? with
      | none => (.pastEnd reader.here, reader)
      | some (c, later) => (.text (String.singleton c), later)
  | .peek => (.text (String.ofList (reader.rest.take 1)), reader)
  | .atEnd => (.truth reader.rest.isEmpty, reader)
  | .skip => (.nothing, reader.skipBlanks)
  | .token =>
      match reader.nextToken with
      | (.ok token, later) => (.token token, later)
      | (.error fault, later) => (.unrecognized fault, later)
  | .iterate =>
      match reader.nextToken with
      | (.ok token, later) => (if token.kind = .endOfText then .exhausted else .token token, later)
      | (.error fault, later) => (.unrecognized fault, later)
  | .rest =>
      match reader.drain with
      | (.ok tokens, later) => (.tokens tokens, later)
      | (.error fault, later) => (.unrecognized fault, later)

def answers : Reader → List Call → List (Answer × Coordinates)
  | _, [] => []
  | reader, call :: rest =>
      let later := reader.answer call
      (later.1, later.2.here) :: answers later.2 rest

/-- The answer of a reader that is not in the text: it is not at the end either. -/
def answerMisplaced (fault : Misplaced) : Call → Answer
  | .atEnd => .truth false
  | _ => .misplaced fault

def run (source : String) (here : Coordinates) (calls : List Call) : List (Answer × Coordinates) :=
  match openAt source here with
  | .ok reader => answers reader calls
  | .error fault => calls.map fun call => (answerMisplaced fault call, here)

def pastEndMessage (here : Coordinates) : String :=
  "Attempted to read past end of source at position=<" ++ toString here.position ++
    ">, line=<" ++ toString here.line ++ ">"

def misplacedMessage (fault : Misplaced) : String :=
  fault.message "string"

end DigitCalc.Reader
