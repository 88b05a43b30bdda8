/-! Numbers in double precision, taken apart and written in decimal. The text of a number is the shortest one that is
read back as the same number, and the nearest one if there are several. -/
namespace DigitCalc.Text.Floating

/-- A finite number is its significand times a power of two, where the exponent zero stands for the least power. -/
inductive Parts where
  | notANumber
  | infinite (negative : Bool)
  | finite (negative : Bool) (significand exponent : Nat)
  deriving DecidableEq, Repr

def lowest : Nat := 1074

def implied : Nat := Nat.pow 2 52

def parts (x : Float) : Parts :=
  let bits := x.toBits.toNat
  let negative := bits / Nat.pow 2 63 = 1
  let exponent := bits / implied % 2048
  let fraction := bits % implied
  if exponent = 2047 then (if fraction = 0 then .infinite negative else .notANumber)
  else if exponent = 0 then .finite negative fraction 0
  else .finite negative (implied + fraction) (exponent - 1)

/-! Texts that are read back as one number lie in an interval around it. Its ends are half way to the next numbers, and
belong to it when the significand is even. All is counted in quarters of the least power of two. -/

def one : Nat := Nat.pow 2 (lowest + 2)

structure Interval where
  low : Nat
  middle : Nat
  high : Nat
  closed : Bool
  deriving DecidableEq, Repr

/-- Below a power of two the next number is only half as far away. -/
def around (significand exponent : Nat) : Interval :=
  let gap := if significand = implied && exponent ≠ 0 then 1 else 2
  let scaled (quarters : Nat) := quarters * Nat.pow 2 exponent
  ⟨scaled (4 * significand - gap), scaled (4 * significand), scaled (4 * significand + 2), significand % 2 = 0⟩

namespace Interval

def contains (interval : Interval) (n : Nat) : Bool :=
  (interval.low < n && n < interval.high) || (interval.closed && (n = interval.low || n = interval.high))

def scale (interval : Interval) (factor : Nat) : Interval :=
  ⟨interval.low * factor, interval.middle * factor, interval.high * factor, interval.closed⟩

/-- The multiple of `unit` that lies nearest to the middle, counted in units, if one lies in the interval. Half way
between two multiples the even one is taken. -/
def nearest? (interval : Interval) (unit : Nat) : Option Nat :=
  let below := interval.middle / unit
  let past := interval.middle % unit
  match interval.contains (below * unit), interval.contains ((below + 1) * unit) with
  | false, false => none
  | true, false => some below
  | false, true => some (below + 1)
  | true, true => some (if 2 * past < unit || (2 * past = unit && below % 2 = 0) then below else below + 1)

def decimal? (interval : Interval) (power : Int) : Option Nat :=
  (interval.scale (Nat.pow 10 (-power).toNat)).nearest? (Nat.pow 10 power.toNat * one)

end Interval

/-- Units of this power are smaller than any interval. -/
def lowestPower : Int := -324

/-- The digits of a decimal and the power of ten that they count. Powers are tried from the one `above` the lowest
down. -/
def coarsest (decimal? : Int → Option Nat) : Nat → Nat × Int
  | 0 => ((decimal? lowestPower).getD 0, lowestPower)
  | above + 1 =>
      match decimal? (lowestPower + (above + 1)) with
      | some digits => (digits, lowestPower + (above + 1))
      | none => coarsest decimal? above

/-- Above this many powers a unit is larger than any number. -/
def powers : Nat := 632

def shortest (interval : Interval) : Nat × Int :=
  coarsest interval.decimal? powers

def zeros (count : Int) : List Char :=
  List.replicate count.toNat '0'

def positional (digits : List Char) (point : Int) : List Char :=
  if point ≤ 0 then '0' :: '.' :: (zeros (-point) ++ digits)
  else if digits.length ≤ point then digits ++ zeros (point - digits.length) ++ ['.', '0']
  else digits.take point.toNat ++ '.' :: digits.drop point.toNat

def scientific (digits : List Char) (point : Int) : List Char :=
  let power := point - 1
  let tail := digits.drop 1
  let width := (toString power.natAbs).toList
  digits.take 1 ++ (if tail = [] then [] else '.' :: tail) ++ ['e', if power < 0 then '-' else '+'] ++
    zeros (2 - width.length) ++ width

def layOut (digits : List Char) (point : Int) : List Char :=
  if -4 < point && point ≤ 16 then positional digits point else scientific digits point

def magnitude (significand exponent : Nat) : List Char :=
  if significand = 0 then ['0', '.', '0'] else
    let (count, power) := shortest (around significand exponent)
    let digits := (toString count).toList
    layOut digits (digits.length + power)

def signed (negative : Bool) (text : List Char) : String :=
  String.ofList (if negative then '-' :: text else text)

def write (x : Float) : String :=
  match parts x with
  | .notANumber => "nan"
  | .infinite negative => signed negative ['i', 'n', 'f']
  | .finite negative significand exponent => signed negative (magnitude significand exponent)

end DigitCalc.Text.Floating
