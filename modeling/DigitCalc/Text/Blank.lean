import DigitCalc.Text.Ranges

/-! White space around an entered line. It is the white space of Unicode together with the four information
separators; the blanks between tokens are a much smaller set and belong to the lexer. -/
namespace DigitCalc.Text.Blank

def ranges : List (Nat × Nat) :=
  [(0x9, 0xd), (0x1c, 0x20), (0x85, 0x85), (0xa0, 0xa0), (0x1680, 0x1680), (0x2000, 0x200a),
   (0x2028, 0x2029), (0x202f, 0x202f), (0x205f, 0x205f), (0x3000, 0x3000)]

def isBlank (c : Char) : Bool :=
  Ranges.covers ranges c

/-- Removes what `drop` accepts from both ends and leaves the middle alone. -/
def stripped (drop : Char → Bool) (text : List Char) : List Char :=
  ((text.dropWhile drop).reverse.dropWhile drop).reverse

def trim (text : String) : String :=
  String.ofList (stripped isBlank text.toList)

end DigitCalc.Text.Blank
