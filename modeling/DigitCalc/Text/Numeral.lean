import DigitCalc.Text.Blank
import DigitCalc.Text.DecimalDigit

/-! Decimal numerals of whole numbers, read and written. Neither way goes past 4300 digits, because both take time
quadratic in the length. A numeral is read from digits of any script, with a sign before them, single low lines
between them and white space around them. -/
namespace DigitCalc.Text.Numeral

def mostDigits : Nat := 4300

/-- The information separators are white space around a line but not around a numeral. -/
def isBlank (c : Char) : Bool :=
  Blank.isBlank c && !(0x1c ≤ c.toNat && c.toNat ≤ 0x1f)

def digits? : List Char → Option (List Nat)
  | [] => none
  | [c] => (DecimalDigit.digit? c).map ([·])
  | c :: next :: rest => do
      let digit ← DecimalDigit.digit? c
      let others ← if next = '_' then digits? rest else digits? (next :: rest)
      return digit :: others

def magnitude? (text : List Char) : Option Nat :=
  match digits? text with
  | none => none
  | some digits =>
      if digits.length ≤ mostDigits then some (digits.foldl (fun n digit => 10 * n + digit) 0) else none

def read? (text : String) : Option Int :=
  match Blank.stripped isBlank text.toList with
  | '-' :: rest => (magnitude? rest).map fun n => -(n : Int)
  | '+' :: rest => (magnitude? rest).map fun n => (n : Int)
  | rest => (magnitude? rest).map fun n => (n : Int)

/-- Said when a number has too many digits to be written. -/
def refusal : String :=
  "Exceeds the limit (4300 digits) for integer string conversion; " ++
    "use sys.set_int_max_str_digits() to increase the limit"

def write? (n : Int) : Option String :=
  if n.natAbs < Nat.pow 10 mostDigits then some (toString n) else none

def Short (n : Int) : Prop :=
  n.natAbs < Nat.pow 10 mostDigits

theorem short_of_lt {n : Int} {digits : Nat} (few : digits ≤ mostDigits) (small : n.natAbs < Nat.pow 10 digits) :
    Short n := by
  have grows (most : Nat) (few : digits ≤ most) : Nat.pow 10 digits ≤ Nat.pow 10 most :=
    Nat.pow_le_pow_right (by decide) few
  exact Nat.lt_of_lt_of_le small (grows mostDigits few)

theorem write?_short {n : Int} (short : Short n) : write? n = some (toString n) :=
  if_pos short

theorem write?_long {n : Int} (long : ¬ Short n) : write? n = none :=
  if_neg long

end DigitCalc.Text.Numeral
