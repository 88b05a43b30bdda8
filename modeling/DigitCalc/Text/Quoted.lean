import DigitCalc.Text.Unprintable

/-! Quotations inside messages. An apostrophe delimits unless the text holds one and no quotation mark; what would end
the quotation or has no picture is escaped, by the shortest of three hexadecimal forms. -/
namespace DigitCalc.Text.Quoted

def apostrophe : Char := '\x27'

def mark : Char := '\x22'

def hexDigit (n : Nat) : Char :=
  if n < 10 then Char.ofNat (0x30 + n) else Char.ofNat (0x57 + n)

def hex : Nat → Nat → List Char
  | 0, _ => []
  | width + 1, n => hex width (n / 16) ++ [hexDigit (n % 16)]

def delimiter (text : List Char) : Char :=
  if text.contains apostrophe && !text.contains mark then mark else apostrophe

def numbered (n : Nat) : List Char :=
  if n < 0x100 then '\\' :: 'x' :: hex 2 n
  else if n < 0x10000 then '\\' :: 'u' :: hex 4 n
  else '\\' :: 'U' :: hex 8 n

def escape (delimiter c : Char) : List Char :=
  if c = delimiter || c = '\\' then ['\\', c]
  else if c = '\n' then ['\\', 'n']
  else if c = '\r' then ['\\', 'r']
  else if c = '\t' then ['\\', 't']
  else if Unprintable.isUnprintable c then numbered c.toNat
  else [c]

def quote (text : String) : String :=
  let delimiter := delimiter text.toList
  String.ofList (delimiter :: text.toList.flatMap (escape delimiter) ++ [delimiter])

end DigitCalc.Text.Quoted
