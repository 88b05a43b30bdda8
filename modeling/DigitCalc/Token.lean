import DigitCalc.Datum

/-! Tokens: a kind, the value it was read with and the place where it starts. A token made by hand may have any kind
and any value. Kinds that the grammar knows are constructors, so a name is a foreign kind only if it names none of
them. -/
namespace DigitCalc

structure Place where
  line : Int
  column : Int
  deriving DecidableEq, Repr, Inhabited

inductive TokenKind where
  | digit
  | plus
  | minus
  | times
  | division
  | openParen
  | closeParen
  | endOfText
  | foreign (name : String)
  deriving DecidableEq, Repr

namespace TokenKind

def name : TokenKind → String
  | .digit => "DIGIT"
  | .plus => "PLUS"
  | .minus => "MINUS"
  | .times => "TIMES"
  | .division => "DIVISION"
  | .openParen => "LPAREN"
  | .closeParen => "RPAREN"
  | .endOfText => "EOF"
  | .foreign name => name

def known : List TokenKind :=
  [.digit, .plus, .minus, .times, .division, .openParen, .closeParen, .endOfText]

def ofName (name : String) : TokenKind :=
  (known.find? fun kind => kind.name == name).getD (.foreign name)

theorem name_ofName (name : String) : (ofName name).name = name := by
  unfold ofName
  cases found : known.find? fun kind => kind.name == name with
  | none => rfl
  | some kind => simpa using List.find?_some found

end TokenKind

structure Token where
  kind : TokenKind
  value : Datum
  place : Place
  deriving DecidableEq, Repr

namespace Token

/-- The text of a token, unless its value cannot be written. -/
def write? (token : Token) : Option String :=
  token.value.plain?.map fun value => "Token(" ++ token.kind.name ++ ", " ++ value ++ ")"

def writeList? (tokens : List Token) : Option String :=
  (tokens.mapM write?).map fun texts => "[" ++ ", ".intercalate texts ++ "]"

def same (a b : Token) : Bool :=
  a.kind = b.kind && a.value.same b.value && a.place = b.place

/-- The digest of a token is made of the digests of its four parts. -/
def digest (token : Token) : List Datum.Digest :=
  [Datum.text token.kind.name, token.value, .int token.place.line, .int token.place.column].map Datum.digest

def assignmentRefusal (field : String) : String :=
  "Token is immutable (tried to set " ++ Text.Quoted.quote field ++ ")"

end Token

end DigitCalc
