/-! A text that is read line by line. One read takes a line off the front of what is left, without its end. Some
streams end a line at a line feed only; others know all three newline spellings. -/
namespace DigitCalc.Text.Stream

inductive LineEnds where
  | feeds
  | newlines
  deriving DecidableEq, Repr

def LineEnds.pass? : LineEnds → List Char → Option (List Char)
  | _, '\n' :: rest => some rest
  | .newlines, '\r' :: '\n' :: rest => some rest
  | .newlines, '\r' :: rest => some rest
  | _, _ => none

/-- One read: the line, and what is left behind its end. -/
def take (ends : LineEnds) : List Char → List Char × List Char
  | [] => ([], [])
  | c :: rest =>
      match ends.pass? (c :: rest) with
      | some later => ([], later)
      | none => (c :: (take ends rest).1, (take ends rest).2)

theorem pass?_shorter {ends : LineEnds} {text later : List Char} (passed : ends.pass? text = some later) :
    later.length < text.length := by
  unfold LineEnds.pass? at passed
  split at passed <;> cases passed <;> simp only [List.length_cons] <;> omega

theorem take_shorter (ends : LineEnds) (c : Char) (rest : List Char) :
    (take ends (c :: rest)).2.length < (c :: rest).length := by
  rw [take]
  cases passed : ends.pass? (c :: rest) with
  | some later => exact pass?_shorter passed
  | none =>
      cases rest with
      | nil => exact Nat.one_pos
      | cons d rest => exact Nat.lt_succ_of_lt (take_shorter ends d rest)

def read (ends : LineEnds) : List Char → List (List Char)
  | [] => []
  | c :: rest => (take ends (c :: rest)).1 :: read ends (take ends (c :: rest)).2
termination_by text => text.length
decreasing_by exact take_shorter ends c rest

def lines (ends : LineEnds) (text : String) : List String :=
  (read ends text.toList).map String.ofList

end DigitCalc.Text.Stream
