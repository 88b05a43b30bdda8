import DigitCalc.Text.Blank
import DigitCalc.Text.Line

/-! Lines that are entered, in a file or in a session. The white space around a line does not count, and a line that
is then empty or starts with a number sign holds no expression. -/
namespace DigitCalc.InputLine

def ofLines (lines : List String) : List String :=
  lines.map Text.Blank.trim

/-- The lines of a file, which may be ended in any of the three ways. -/
def ofText (text : String) : List String :=
  ofLines (Text.Line.entered text)

def isSilent (line : String) : Bool :=
  line = "" || line.toList.head? == some '#'

end DigitCalc.InputLine
