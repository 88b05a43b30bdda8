/-! Sets of characters given by runs of code points. A table is a list of first and last members, so that it can be
compared line by line with the standard that lists them. -/
namespace DigitCalc.Text.Ranges

def covers (ranges : List (Nat × Nat)) (c : Char) : Bool :=
  ranges.any fun range => range.1 ≤ c.toNat && c.toNat ≤ range.2

theorem covers_iff (ranges : List (Nat × Nat)) (c : Char) :
    covers ranges c = true ↔ ∃ range ∈ ranges, range.1 ≤ c.toNat ∧ c.toNat ≤ range.2 := by
  simp [covers, List.any_eq_true]

end DigitCalc.Text.Ranges
