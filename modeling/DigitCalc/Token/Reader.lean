import DigitCalc.Token
import DigitCalc.Window

/-! Reading characters and tokens from the front of a text. A reader is what is left of the text and the coordinates
of its first character; only a line feed starts a new line. Every character of the alphabet is a token by itself or a
blank between tokens, so one look at the next character decides. -/
namespace DigitCalc

structure Coordinates where
  position : Int
  line : Int
  column : Int
  deriving DecidableEq, Repr

namespace Coordinates

def start : Coordinates := ⟨0, 1, 1⟩

def past (here : Coordinates) (c : Char) : Coordinates :=
  if c = '\n' then ⟨here.position + 1, here.line + 1, 1⟩
  else ⟨here.position + 1, here.line, here.column + 1⟩

def place (here : Coordinates) : Place :=
  ⟨here.line, here.column⟩

end Coordinates

structure Unrecognized where
  character : Char
  place : Place
  deriving DecidableEq, Repr

structure Reader where
  rest : List Char
  here : Coordinates
  deriving DecidableEq, Repr

namespace Reader

def openAt (source : String) (here : Coordinates) : Except Misplaced Reader :=
  (window source.toList here.position).map fun rest => ⟨rest, here⟩

def start (source : String) : Reader :=
  ⟨source.toList, .start⟩

def next? (reader : Reader) : Option (Char × Reader) :=
  match reader.rest with
  | [] => none
  | c :: rest => some (c, ⟨rest, reader.here.past c⟩)

def blanks : List Char := [' ', '\t', '\r', '\n']

def isBlank (c : Char) : Bool :=
  blanks.contains c

def symbols : List (Char × TokenKind) :=
  [('+', .plus), ('-', .minus), ('*', .times), ('/', .division), ('(', .openParen), (')', .closeParen)]

/-- The kind and value of the token that a character is. Digits of other scripts are no digits here. -/
def lexeme? (c : Char) : Option (TokenKind × Datum) :=
  if '0' ≤ c ∧ c ≤ '9' then some (.digit, .int (c.toNat - '0'.toNat : Nat))
  else (symbols.lookup c).map fun kind => (kind, .text (String.singleton c))

def skipBlanks (reader : Reader) : Reader :=
  ⟨reader.rest.dropWhile isBlank, (reader.rest.takeWhile isBlank).foldl .past reader.here⟩

def ending (here : Coordinates) : Token :=
  ⟨.endOfText, .text TokenKind.endOfText.name, here.place⟩

/-- Blanks are passed even when no token follows them; a refused character is not. -/
def nextToken (reader : Reader) : Except Unrecognized Token × Reader :=
  let reader := reader.skipBlanks
  match reader.rest with
  | [] => (.ok (ending reader.here), reader)
  | c :: rest =>
      match lexeme? c with
      | none => (.error ⟨c, reader.here.place⟩, reader)
      | some (kind, value) => (.ok ⟨kind, value, reader.here.place⟩, ⟨rest, reader.here.past c⟩)

theorem nextToken_shorter (reader : Reader) (token : Token) (found : reader.nextToken.1 = .ok token)
    (here : token.kind ≠ .endOfText) : reader.nextToken.2.rest.length < reader.rest.length := by
  have kept : reader.skipBlanks.rest.length ≤ reader.rest.length :=
    (List.dropWhile_suffix _).length_le
  unfold nextToken at found ⊢
  cases left : reader.skipBlanks.rest with
  | nil =>
      simp only [left, Except.ok.injEq] at found
      subst token
      exact absurd rfl here
  | cons c rest =>
      have shorter : rest.length < reader.rest.length := by rwa [left] at kept
      cases known : lexeme? c with
      | none => simp [left, known] at found
      | some lexeme => simpa [left, known] using shorter

/-- Tokens as long as there are any, up to the end of the text or a character that is none, and the reader that is
left. -/
def drain (reader : Reader) : Except Unrecognized (List Token) × Reader :=
  match _found : reader.nextToken.1 with
  | .error fault => (.error fault, reader.nextToken.2)
  | .ok token =>
      if _here : token.kind = .endOfText then (.ok [], reader.nextToken.2) else
        let later := drain reader.nextToken.2
        (later.1.map (token :: ·), later.2)
termination_by reader.rest.length
decreasing_by exact nextToken_shorter reader token _found _here

end Reader

def Token.ofText (source : String) : Except Unrecognized (List Token) :=
  (Reader.start source).drain.1

end DigitCalc
