import DigitCalc.Text.Floating
import DigitCalc.Text.Numeral
import DigitCalc.Text.Quoted

/-! Values that a token or a node may carry. Whole numbers and symbols come from the lexer; the rest can be attached
by hand and must be told apart, written in messages and refused by the parser. A whole number has any size, but one with
too many digits cannot be written. -/
namespace DigitCalc

inductive Datum where
  | absent
  | truth (holds : Bool)
  | int (n : Int)
  | float (x : Float)
  | text (content : String)
  deriving DecidableEq, Repr, Inhabited

/-- Numbers as they are compared: exactly, and whichever way they are given. A finite one counts the least double, of
which every double and every whole number is a multiple. -/
inductive Number where
  | finite (units : Int)
  | infinite (negative : Bool)
  | notANumber
  deriving DecidableEq, Repr

namespace Number
open Text

def ofInt (n : Int) : Number :=
  .finite (n * (Nat.pow 2 Floating.lowest : Nat))

def ofFloat (x : Float) : Number :=
  match Floating.parts x with
  | .notANumber => .notANumber
  | .infinite negative => .infinite negative
  | .finite negative significand exponent =>
      let units : Int := (significand * Nat.pow 2 exponent : Nat)
      .finite (if negative then -units else units)

/-- What is no number is not even the same as itself. -/
def same (a b : Number) : Bool :=
  a = b && a ≠ .notANumber

end Number

namespace Datum
open Text

def plain? : Datum → Option String
  | .absent => some "None"
  | .truth true => some "True"
  | .truth false => some "False"
  | .int n => Numeral.write? n
  | .float x => some (Floating.write x)
  | .text content => some content

/-- The text of a value inside a message, where texts are quoted. -/
def quoted? : Datum → Option String
  | .text content => some (Quoted.quote content)
  | datum => datum.plain?

theorem plain?_short {n : Int} (short : Numeral.Short n) : (int n).plain? = some (toString n) := by
  rw [plain?, Numeral.write?_short short]

theorem quoted?_short {n : Int} (short : Numeral.Short n) : (int n).quoted? = some (toString n) := by
  rw [quoted?, plain?_short short]
  nofun

theorem quoted?_eq_none (datum : Datum) : datum.quoted? = none ↔ ∃ n, datum = .int n ∧ Numeral.write? n = none := by
  cases datum with
  | truth holds => cases holds <;> simp [quoted?, plain?]
  | _ => simp [quoted?, plain?]

def typeName : Datum → String
  | .absent => "NoneType"
  | .truth _ => "bool"
  | .int _ => "int"
  | .float _ => "float"
  | .text _ => "str"

/-- A truth value stands for one or zero. -/
def number? : Datum → Option Number
  | .truth holds => some (.ofInt (if holds then 1 else 0))
  | .int n => some (.ofInt n)
  | .float x => some (.ofFloat x)
  | .absent | .text _ => none

def same (a b : Datum) : Bool :=
  match a.number?, b.number? with
  | some m, some n => m.same n
  | none, none => a = b
  | _, _ => false

/-- The digit that a value stands for: truth values and fractions are no digits, even where they are the same number. -/
def digit? : Datum → Option (Fin 10)
  | .int n => if h : 0 ≤ n ∧ n < 10 then some ⟨n.toNat, by omega⟩ else none
  | _ => none

def digitRefusal (value : Datum) : String :=
  match value.quoted? with
  | some written => "digit value must be an int in 0..9, got " ++ written
  | none => Numeral.refusal

theorem digitRefusal_written {value : Datum} {written : String} (quoted : value.quoted? = some written) :
    value.digitRefusal = "digit value must be an int in 0..9, got " ++ written := by
  rw [digitRefusal, quoted]

/-- A short form for finding equal values: equal values have equal digests, and few others do. -/
inductive Digest where
  | absent
  | number (residue : Int)
  | notANumber
  | text (content : String)
  deriving DecidableEq, Repr

def digestModulus : Nat := Nat.pow 2 61 - 1

/-- Minus one is kept free as a mark, and takes the residue of minus two. -/
def residue (negative : Bool) (magnitude : Nat) : Int :=
  let r : Int := (magnitude % digestModulus : Nat)
  if negative then (if r = 1 then -2 else -r) else r

/-- For the chosen modulus the sixty-first power of two is one, so this power takes the units out again. -/
def unitless : Nat := Nat.pow 2 24

def infinityDigest : Int := 314159

def numberDigest : Number → Digest
  | .finite units => .number (residue (units < 0) (units.natAbs * unitless))
  | .infinite negative => .number (if negative then -infinityDigest else infinityDigest)
  | .notANumber => .notANumber

def digest (datum : Datum) : Digest :=
  match datum.number?, datum with
  | some n, _ => numberDigest n
  | none, .text content => if content = "" then .number 0 else .text content
  | none, _ => .absent

theorem digest_int (n : Int) : (int n).digest = .number (residue (n < 0) n.natAbs) := by
  have power : Nat.pow 2 Floating.lowest * unitless % digestModulus = 1 := by decide +kernel
  have positive : (0 : Int) < (Nat.pow 2 Floating.lowest : Nat) := by decide +kernel
  have sign : n * (Nat.pow 2 Floating.lowest : Nat) < 0 ↔ n < 0 := by
    constructor
    · intro below
      exact Int.not_le.mp fun least => Int.not_le.mpr below (Int.mul_nonneg least (Int.le_of_lt positive))
    · exact fun below => Int.mul_neg_of_neg_of_pos below positive
  have magnitude : (n * (Nat.pow 2 Floating.lowest : Nat)).natAbs * unitless % digestModulus =
      n.natAbs % digestModulus := by
    rw [Int.natAbs_mul, Int.natAbs_natCast, Nat.mul_assoc, Nat.mul_mod, power, Nat.mul_one, Nat.mod_mod]
  simp only [digest, number?, Number.ofInt, numberDigest, residue, sign, magnitude]

theorem same_digest {a b : Datum} (equal : a.same b = true) : a.digest = b.digest := by
  unfold same at equal
  cases left : a.number? with
  | none =>
      cases right : b.number? with
      | none => simpa [left, right] using congrArg digest (of_decide_eq_true (by simpa [left, right] using equal))
      | some n => simp [left, right] at equal
  | some m =>
      cases right : b.number? with
      | none => simp [left, right] at equal
      | some n =>
          have same : m = n := by simp_all [Number.same]
          simp only [digest, left, right, same]

end Datum

end DigitCalc
