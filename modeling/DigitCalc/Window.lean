import DigitCalc.Index

/-! Reading a sequence from a given place. A place counts from the front, or, when negative, from the end; reading
that starts near the end runs on into the front, since the places that follow `-1` are `0`, `1` and so on. -/
namespace DigitCalc

/-- Why nothing is met at a place: it lies before the first element, or so far before it that it is no index. -/
inductive Misplaced where
  | beforeFirst
  | noIndex
  deriving DecidableEq, Repr

/-- `sequence` says what kind of sequence was read. -/
def Misplaced.message (sequence : String) : Misplaced → String
  | .beforeFirst => sequence ++ " index out of range"
  | .noIndex => Index.refusal

def window {α : Type} (items : List α) (place : Int) : Except Misplaced (List α) :=
  if 0 ≤ place then .ok (items.drop place.toNat)
  else if 0 ≤ place + items.length then .ok (items.drop (place + items.length).toNat ++ items)
  else if Index.least ≤ place then .error .beforeFirst
  else .error .noIndex

theorem window_zero {α : Type} (items : List α) : window items 0 = .ok items := by
  simp [window]

theorem window_ofNat {α : Type} (items : List α) (place : Nat) :
    window items place = .ok (items.drop place) := by
  simp [window]

end DigitCalc
