/-! The stack that a calculation runs on. How deep work may nest on it depends on what the caller has already put there,
so the room that is left is given. -/
namespace DigitCalc

/-- How many groups may be read inside one another, and how tall a tree may be that is written as JSON. -/
structure Stack where
  groups : Nat
  levels : Nat
  deriving DecidableEq, Repr

/-- The room that a command has when nothing else is running. -/
def Stack.ofCommand : Stack := ⟨164, 496⟩

end DigitCalc
