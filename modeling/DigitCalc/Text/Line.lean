/-! Texts cut into lines. A break ends the line before it, so a text that ends in a break has no empty last line, and
a carriage return followed by a line feed is one break. Two sets of breaks are in use: an entered text knows the
three newline spellings, and a text that is shown to its author is cut at every line boundary of Unicode. -/
namespace DigitCalc.Text.Line

def isNewline (c : Char) : Bool :=
  c = '\n' || c = '\r'

def isBoundary (c : Char) : Bool :=
  isNewline c || [0xb, 0xc, 0x1c, 0x1d, 0x1e, 0x85, 0x2028, 0x2029].contains c.toNat

def split (ends : Char → Bool) : List Char → List (List Char)
  | [] => []
  | '\r' :: '\n' :: rest => [] :: split ends rest
  | c :: rest =>
      if ends c then [] :: split ends rest else
        match split ends rest with
        | [] => [[c]]
        | line :: lines => (c :: line) :: lines

def entered (text : String) : List String :=
  (split isNewline text.toList).map String.ofList

def shown (text : String) : List String :=
  (split isBoundary text.toList).map String.ofList

end DigitCalc.Text.Line
