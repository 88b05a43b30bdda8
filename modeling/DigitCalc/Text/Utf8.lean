import DigitCalc.Text.Quoted

/-! UTF-8 as a file is read: byte after byte inside blocks of fixed size, with the start of a sequence that a block
leaves unfinished carried into the next one. A fault counts positions from the first byte at hand when it is met, so
counting begins anew with the bytes carried over, and a sequence that the end of the file cuts off lies at position
zero. -/
namespace DigitCalc.Text.Utf8

inductive Reason where
  | start
  | continuation
  | ended
  deriving DecidableEq, Repr

/-- `bytes` are those that cannot be read, the first of them at `position`. -/
structure Fault where
  reason : Reason
  position : Nat
  bytes : List UInt8
  deriving DecidableEq, Repr

/-- The text read so far, newest character first, and the unfinished sequence, which starts at `position`. -/
structure Progress where
  text : List Char
  kept : List UInt8
  position : Nat

def isContinuation (b : UInt8) : Bool :=
  0x80 ≤ b && b ≤ 0xbf

/-- The second byte rules out overlong forms, surrogates and code points past the last plane. -/
def isSecond (first b : UInt8) : Bool :=
  if first = 0xe0 then 0xa0 ≤ b && b ≤ 0xbf
  else if first = 0xed then 0x80 ≤ b && b ≤ 0x9f
  else if first = 0xf0 then 0x90 ≤ b && b ≤ 0xbf
  else if first = 0xf4 then 0x80 ≤ b && b ≤ 0x8f
  else isContinuation b

def isSurrogate (kept : List UInt8) : Bool :=
  match kept with
  | [first, b] => first = 0xed && 0xa0 ≤ b && b ≤ 0xbf
  | _ => false

def width? (b : UInt8) : Option Nat :=
  if b < 0x80 then some 1
  else if b < 0xc2 then none
  else if b < 0xe0 then some 2
  else if b < 0xf0 then some 3
  else if b < 0xf5 then some 4
  else none

def low (b : UInt8) : Nat := b.toNat % 64

def codePoint : List UInt8 → Nat
  | [a] => a.toNat
  | [a, b] => a.toNat % 32 * 64 + low b
  | [a, b, c] => (a.toNat % 16 * 64 + low b) * 64 + low c
  | [a, b, c, d] => ((a.toNat % 8 * 64 + low b) * 64 + low c) * 64 + low d
  | _ => 0

def grow (progress : Progress) (width : Nat) (bytes : List UInt8) : Progress :=
  if bytes.length = width then
    { text := Char.ofNat (codePoint bytes) :: progress.text, kept := [], position := progress.position + width }
  else { progress with kept := bytes }

/-- The two bytes that would start a surrogate are refused one byte later than any other bad second byte, so that a
block may end between. -/
def advance (progress : Progress) (b : UInt8) : Except Fault Progress :=
  match progress.kept with
  | [] =>
      match width? b with
      | none => .error ⟨.start, progress.position, [b]⟩
      | some width => .ok (grow progress width [b])
  | first :: middle =>
      let kept := first :: middle
      let width := (width? first).getD 1
      if isSurrogate kept then .error ⟨.continuation, progress.position, [first]⟩
      else if (if middle = [] then isSecond first b || isSurrogate [first, b] else isContinuation b) then
        .ok (grow progress width (kept ++ [b]))
      else .error ⟨.continuation, progress.position, kept⟩

def finish (progress : Progress) : Except Fault (List Char) :=
  match progress.kept with
  | [] => .ok progress.text.reverse
  | first :: rest =>
      if isSurrogate (first :: rest) then .error ⟨.continuation, 0, [first]⟩
      else .error ⟨.ended, 0, first :: rest⟩

def blockSize : Nat := 8192

def decode : Nat → Progress → List UInt8 → Except Fault (List Char)
  | _, progress, [] => finish progress
  | 0, progress, b :: rest =>
      match advance { progress with position := 0 } b with
      | .error fault => .error fault
      | .ok next => decode (blockSize - 1) next rest
  | room + 1, progress, b :: rest =>
      match advance progress b with
      | .error fault => .error fault
      | .ok next => decode room next rest

def read (bytes : List UInt8) : Except Fault String :=
  (decode blockSize ⟨[], [], 0⟩ bytes).map String.ofList

def Reason.message : Reason → String
  | .start => "invalid start byte"
  | .continuation => "invalid continuation byte"
  | .ended => "unexpected end of data"

def Fault.place (fault : Fault) : String :=
  match fault.bytes with
  | [b] => "byte 0x" ++ String.ofList (Quoted.hex 2 b.toNat) ++ " in position " ++ toString fault.position
  | bytes =>
      "bytes in position " ++ toString fault.position ++ "-" ++ toString (fault.position + bytes.length - 1)

def Fault.message (fault : Fault) : String :=
  "'utf-8' codec can't decode " ++ fault.place ++ ": " ++ fault.reason.message

end DigitCalc.Text.Utf8
