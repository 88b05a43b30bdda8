import DigitCalc.Text.Floating
import Mathlib.Algebra.Order.Ring.Nat
import Mathlib.Tactic.LinearCombination

/-! The decimal that is written for a number is read back as that number and no other. Of all the decimals that are,
none has fewer digits, and of those with as many places none lies nearer to the number. -/
namespace DigitCalc.Text.Floating

namespace Interval
variable {interval : Interval} {n m k unit factor digits : Nat} {power other : Int}

/-- There is room on both sides of the middle. -/
structure Spans (interval : Interval) : Prop where
  low_lt : interval.low < interval.middle
  lt_high : interval.middle < interval.high

theorem contains_iff : interval.contains n = true ↔
    (interval.low < n ∧ n < interval.high) ∨ (interval.closed = true ∧ (n = interval.low ∨ n = interval.high)) := by
  simp [contains]

theorem contains_scale (positive : 0 < factor) :
    (interval.scale factor).contains (n * factor) = interval.contains n := by
  simp [contains, scale, Nat.mul_lt_mul_right positive, Nat.mul_left_inj positive.ne']

theorem scale_scale : (interval.scale n).scale m = interval.scale (n * m) := by
  simp [scale, Nat.mul_assoc]

theorem Spans.scale (spans : interval.Spans) (positive : 0 < factor) : (interval.scale factor).Spans :=
  ⟨Nat.mul_lt_mul_of_pos_right spans.low_lt positive, Nat.mul_lt_mul_of_pos_right spans.lt_high positive⟩

theorem Spans.middle (spans : interval.Spans) : interval.contains interval.middle = true :=
  contains_iff.mpr (.inl ⟨spans.low_lt, spans.lt_high⟩)

theorem Spans.bounds (spans : interval.Spans) (within : interval.contains n = true) :
    interval.low ≤ n ∧ n ≤ interval.high := by
  have room := spans.low_lt.trans spans.lt_high
  rw [contains_iff] at within
  omega

theorem Spans.convex (spans : interval.Spans) (first : interval.contains n = true) (last : interval.contains k = true)
    (above : n ≤ m) (below : m ≤ k) : interval.contains m = true := by
  have room := spans.low_lt.trans spans.lt_high
  rw [contains_iff] at first last ⊢
  by_cases closed : interval.closed = true
  · simp only [closed, true_and] at first last ⊢
    omega
  · simp only [closed, Bool.false_eq_true, false_and, or_false] at first last ⊢
    omega

/-! The multiple of a unit next to the middle on either side is the one to look at: where one further out lies in the
interval, so does it. -/

theorem Spans.below (spans : interval.Spans) (within : interval.contains (n * unit) = true)
    (outer : n ≤ interval.middle / unit) : interval.contains (interval.middle / unit * unit) = true :=
  spans.convex within spans.middle (Nat.mul_le_mul_right unit outer) (Nat.div_mul_le_self _ _)

theorem Spans.above (spans : interval.Spans) (positive : 0 < unit) (within : interval.contains (n * unit) = true)
    (outer : interval.middle / unit < n) : interval.contains ((interval.middle / unit + 1) * unit) = true :=
  spans.convex spans.middle within (Nat.lt_mul_of_div_lt (Nat.lt_succ_self _) positive).le
    (Nat.mul_le_mul_right unit outer)

theorem nearest?_none (missing : interval.nearest? unit = none) :
    interval.contains (interval.middle / unit * unit) = false ∧
      interval.contains ((interval.middle / unit + 1) * unit) = false := by
  simp only [nearest?] at missing
  split at missing <;> simp_all

/-- The neighbour that is not taken is not in the interval or is no nearer. -/
theorem nearest?_some (found : interval.nearest? unit = some n) : interval.contains (n * unit) = true ∧
    ((n = interval.middle / unit ∧
        (interval.contains ((interval.middle / unit + 1) * unit) = true → 2 * (interval.middle % unit) ≤ unit)) ∨
      (n = interval.middle / unit + 1 ∧
        (interval.contains (interval.middle / unit * unit) = true → unit ≤ 2 * (interval.middle % unit)))) := by
  simp only [nearest?] at found
  split at found
  · cases found
  · cases found; simp_all
  · cases found; simp_all
  · split at found <;> (cases found; simp_all <;> omega)

theorem Spans.missing (spans : interval.Spans) (positive : 0 < unit) (missing : interval.nearest? unit = none)
    (n : Nat) : ¬interval.contains (n * unit) = true := by
  intro within
  obtain ⟨below, above⟩ := nearest?_none missing
  rcases Nat.lt_or_ge (interval.middle / unit) n with outer | outer
  · exact Bool.false_ne_true (above.symm.trans (spans.above positive within outer))
  · exact Bool.false_ne_true (below.symm.trans (spans.below within outer))

def distance (interval : Interval) (n : Nat) : Nat :=
  ((n : Int) - interval.middle).natAbs

theorem Spans.nearest (spans : interval.Spans) (positive : 0 < unit) (found : interval.nearest? unit = some n)
    (within : interval.contains (m * unit) = true) : interval.distance (n * unit) ≤ interval.distance (m * unit) := by
  have parts := Nat.div_add_mod' interval.middle unit
  have next : (interval.middle / unit + 1) * unit = interval.middle / unit * unit + unit := Nat.succ_mul _ _
  have past := Nat.mod_lt interval.middle positive
  unfold distance
  rcases Nat.lt_or_ge (interval.middle / unit) m with outer | outer
  · have further : (interval.middle / unit + 1) * unit ≤ m * unit := Nat.mul_le_mul_right unit outer
    have candidate := spans.above positive within outer
    obtain ⟨_, ⟨rfl, nearer⟩ | ⟨rfl, -⟩⟩ := nearest?_some found
    · have := nearer candidate
      omega
    · omega
  · have further : m * unit ≤ interval.middle / unit * unit := Nat.mul_le_mul_right unit outer
    have candidate := spans.below within outer
    obtain ⟨_, ⟨rfl, -⟩ | ⟨rfl, nearer⟩⟩ := nearest?_some found
    · omega
    · have := nearer candidate
      omega

/-! Decimals of different powers are compared over a common one. -/

/-- The decimal lies in the interval. -/
def Holds (interval : Interval) (digits : Nat) (power : Int) : Prop :=
  (interval.scale (Nat.pow 10 (-power).toNat)).contains (digits * (Nat.pow 10 power.toNat * one)) = true

theorem ten_pow_le (le : n ≤ m) : Nat.pow 10 n ≤ Nat.pow 10 m :=
  Nat.pow_le_pow_right (by decide) le

theorem ten_pow_pos (n : Nat) : 0 < Nat.pow 10 n :=
  Nat.pow_pos (by decide)

/-- The power may be split into any two that it is the difference of. -/
theorem holds_iff (upper lower : Nat) (difference : power = upper - lower) : interval.Holds digits power ↔
    (interval.scale (Nat.pow 10 lower)).contains (digits * (Nat.pow 10 upper * one)) = true := by
  have common : digits * (Nat.pow 10 power.toNat * one) * Nat.pow 10 lower =
      digits * (Nat.pow 10 upper * one) * Nat.pow 10 (-power).toNat := by
    have powers : Nat.pow 10 power.toNat * Nat.pow 10 lower = Nat.pow 10 upper * Nat.pow 10 (-power).toNat := by
      simp only [Nat.pow_eq, ← Nat.pow_add]
      congr 1
      omega
    linear_combination digits * one * powers
  unfold Holds
  rw [← contains_scale (ten_pow_pos lower), scale_scale, common, Nat.mul_comm (Nat.pow 10 _) (Nat.pow 10 lower),
    ← scale_scale, contains_scale (ten_pow_pos _)]

theorem unit_pos (power : Int) : 0 < Nat.pow 10 power.toNat * one :=
  Nat.mul_pos (ten_pow_pos _) (by decide +kernel)

theorem Spans.decimal?_none (spans : interval.Spans) (missing : interval.decimal? power = none) (n : Nat) :
    ¬interval.Holds n power :=
  (spans.scale (ten_pow_pos _)).missing (unit_pos power) missing n

theorem decimal?_some (found : interval.decimal? power = some digits) : interval.Holds digits power :=
  (nearest?_some found).1

/-- How far from the middle a decimal lies. -/
def offset (interval : Interval) (digits : Nat) (power : Int) : Nat :=
  (interval.scale (Nat.pow 10 (-power).toNat)).distance (digits * (Nat.pow 10 power.toNat * one))

theorem Spans.decimal?_nearest (spans : interval.Spans) (found : interval.decimal? power = some digits)
    (holds : interval.Holds n power) : interval.offset digits power ≤ interval.offset n power :=
  (spans.scale (ten_pow_pos _)).nearest (unit_pos power) found holds

/-- A power of ten between two decimals is itself one of their interval. -/
theorem Spans.leading {extra : Nat} (spans : interval.Spans) (longer : interval.Holds digits (other + extra))
    (shorter : interval.Holds n other) (many : 10 ^ k ≤ digits) (few : n < 10 ^ k) :
    interval.Holds 1 (other + (extra + k : Nat)) := by
  have split (upper : Nat) : other + upper = ((other.toNat + upper : Nat) : Int) - ((-other).toNat : Nat) := by omega
  have whole : 10 ^ (other.toNat + (extra + k)) = 10 ^ k * 10 ^ (other.toNat + extra) := by
    rw [← Nat.add_assoc, Nat.pow_add, Nat.mul_comm]
  have low : n * 10 ^ (other.toNat + 0) ≤ 10 ^ (other.toNat + (extra + k)) := calc
    n * 10 ^ (other.toNat + 0) ≤ 10 ^ k * 10 ^ (other.toNat + extra) :=
      Nat.mul_le_mul few.le (Nat.pow_le_pow_right (by decide) (Nat.add_le_add_left extra.zero_le _))
    _ = 10 ^ (other.toNat + (extra + k)) := whole.symm
  have high : 10 ^ (other.toNat + (extra + k)) ≤ digits * 10 ^ (other.toNat + extra) :=
    whole.trans_le (Nat.mul_le_mul_right _ many)
  rw [holds_iff _ _ (split extra), ← Nat.mul_assoc] at longer
  rw [show other = other + (0 : Nat) from other.add_zero.symm, holds_iff _ _ (split 0), ← Nat.mul_assoc] at shorter
  rw [holds_iff _ _ (split (extra + k)), Nat.one_mul]
  exact (spans.scale (ten_pow_pos _)).convex shorter longer (Nat.mul_le_mul_right one low)
    (Nat.mul_le_mul_right one high)

end Interval

section Search
variable {decimal? : Int → Option Nat} {power : Int}

/-! The search goes down from the highest power, and stops at the first one with a decimal. -/

theorem coarsest_found (bottom : (decimal? lowestPower).isSome = true) (above : Nat) :
    decimal? (coarsest decimal? above).2 = some (coarsest decimal? above).1 := by
  induction above with
  | zero =>
      obtain ⟨digits, found⟩ := Option.isSome_iff_exists.mp bottom
      simp [coarsest, found]
  | succ above ih =>
      rw [coarsest]
      split
      · assumption
      · exact ih

theorem coarsest_above (above : Nat) (past : (coarsest decimal? above).2 < power)
    (tried : power ≤ lowestPower + above) : decimal? power = none := by
  induction above with
  | zero =>
      simp only [coarsest] at past
      omega
  | succ above ih =>
      rw [coarsest] at past
      split at past
      · simp only at past
        omega
      · rename_i missing
        by_cases last : power = lowestPower + (above + 1)
        · exact last ▸ missing
        · exact ih past (by push_cast at tried; omega)

end Search

/-! The numbers of double precision. -/

variable {significand exponent otherSignificand otherExponent : Nat}

structure Canonical (significand exponent : Nat) : Prop where
  short : significand < 2 * implied
  normal : exponent = 0 ∨ implied ≤ significand
  finite : exponent ≤ 2045

theorem implied_pos : 0 < implied := by
  decide

theorem parts_canonical {x : Float} {negative : Bool} (finite : parts x = .finite negative significand exponent) :
    Canonical significand exponent := by
  have fraction := Nat.mod_lt x.toBits.toNat implied_pos
  have field := Nat.mod_lt (x.toBits.toNat / implied) (show 0 < 2048 by decide)
  simp only [parts] at finite
  split at finite
  · split at finite <;> cases finite
  · split at finite
    all_goals
      cases finite
      constructor <;> omega

theorem two_pow_pos (n : Nat) : 0 < Nat.pow 2 n :=
  Nat.pow_pos (by decide)

theorem around_spans (exponent : Nat) (positive : 0 < significand) : (around significand exponent).Spans := by
  constructor
  · refine Nat.mul_lt_mul_of_pos_right ?_ (two_pow_pos exponent)
    split <;> omega
  · exact Nat.mul_lt_mul_of_pos_right (by omega) (two_pow_pos exponent)

theorem around_low_pos (exponent : Nat) (positive : 0 < significand) : 0 < (around significand exponent).low := by
  refine Nat.mul_pos ?_ (two_pow_pos exponent)
  split <;> omega

theorem around_high_le {last : Nat} (short : significand < 2 * implied) (le : exponent ≤ last) :
    (around significand exponent).high ≤ 8 * implied * Nat.pow 2 last :=
  Nat.mul_le_mul (by omega) (Nat.pow_le_pow_right (by decide) le)

theorem around_high {upper : Nat} (canonical : Canonical significand exponent) (tall : 309 ≤ upper) :
    (around significand exponent).high < Nat.pow 10 upper * one := by
  refine Nat.lt_of_le_of_lt (around_high_le canonical.short canonical.finite) ?_
  refine Nat.lt_of_lt_of_le ?_ (Nat.mul_le_mul_right one (Interval.ten_pow_le tall))
  decide +kernel

/-- A unit that is no longer than one side of an interval has a multiple there. -/
theorem Interval.Spans.some_nearest {interval : Interval} {unit : Nat} (spans : interval.Spans) (positive : 0 < unit)
    (narrow : interval.low + unit ≤ interval.middle) : (interval.nearest? unit).isSome = true := by
  have below := Nat.div_mul_le_self interval.middle unit
  have past : interval.middle < (interval.middle / unit + 1) * unit :=
    Nat.lt_mul_of_div_lt (Nat.lt_succ_self _) positive
  have next : (interval.middle / unit + 1) * unit = interval.middle / unit * unit + unit := Nat.succ_mul _ _
  have within : interval.contains (interval.middle / unit * unit) = true :=
    spans.convex (Interval.contains_iff.mpr (.inl ⟨by omega, below.trans_lt spans.lt_high⟩)) spans.middle le_rfl below
  cases missing : interval.nearest? unit with
  | some n => rfl
  | none => exact absurd within (spans.missing positive missing _)

theorem lowest_narrow : Nat.pow 10 lowestPower.toNat * one ≤ Nat.pow 10 (-lowestPower).toNat := by
  decide +kernel

theorem around_lowest (exponent : Nat) (positive : 0 < significand) :
    ((around significand exponent).decimal? lowestPower).isSome = true := by
  have spans := around_spans exponent positive
  refine (spans.scale (Interval.ten_pow_pos _)).some_nearest (Interval.unit_pos _) ?_
  refine (Nat.add_le_add_left lowest_narrow _).trans ?_
  exact (Nat.succ_mul ..).symm.trans_le (Nat.mul_le_mul_right _ spans.low_lt)

theorem holds_pos {digits : Nat} {power : Int} (positive : 0 < significand)
    (holds : (around significand exponent).Holds digits power) : 0 < digits := by
  have low := Nat.mul_pos (around_low_pos exponent positive) (Interval.ten_pow_pos (-power).toNat)
  refine Nat.pos_of_ne_zero fun zero => ?_
  subst zero
  have bounds := (((around_spans _ positive).scale (Interval.ten_pow_pos _)).bounds holds).1
  rw [Nat.zero_mul] at bounds
  exact Nat.not_lt.mpr bounds low

theorem holds_tried {digits : Nat} {power : Int} (canonical : Canonical significand exponent)
    (positive : 0 < significand) (holds : (around significand exponent).Holds digits power) :
    power ≤ lowestPower + powers := by
  by_contra past
  have tall : 309 ≤ power.toNat := by
    simp only [lowestPower, powers] at past
    omega
  have many := holds_pos positive holds
  rw [Interval.holds_iff power.toNat 0 (by omega)] at holds
  have bounds := (((around_spans _ positive).scale (Interval.ten_pow_pos 0)).bounds holds).2
  refine Nat.not_lt.mpr bounds ?_
  calc (around significand exponent).high * Nat.pow 10 0
      = (around significand exponent).high := Nat.mul_one _
    _ < Nat.pow 10 power.toNat * one := around_high canonical tall
    _ ≤ digits * (Nat.pow 10 power.toNat * one) := Nat.le_mul_of_pos_left _ many

theorem shortest_found (exponent : Nat) (positive : 0 < significand) :
    (around significand exponent).decimal? (shortest (around significand exponent)).2 =
      some (shortest (around significand exponent)).1 :=
  coarsest_found (around_lowest exponent positive) powers

theorem shortest_coarsest {digits : Nat} {power : Int} (canonical : Canonical significand exponent)
    (positive : 0 < significand) (holds : (around significand exponent).Holds digits power) :
    power ≤ (shortest (around significand exponent)).2 := by
  by_contra past
  have missing := coarsest_above powers (Int.not_le.mp past) (holds_tried canonical positive holds)
  exact (around_spans exponent positive).decimal?_none missing digits holds

/-- A decimal with fewer digits would have a power of ten between itself and the one that was found, and that is one
digit of a higher power. -/
theorem shortest_fewest {digits k : Nat} {power : Int} (canonical : Canonical significand exponent)
    (positive : 0 < significand) (holds : (around significand exponent).Holds digits power)
    (many : 10 ^ k ≤ (shortest (around significand exponent)).1) : 10 ^ k ≤ digits := by
  by_contra few
  obtain ⟨extra, reached⟩ := Int.le.dest (shortest_coarsest canonical positive holds)
  have longer := Interval.decimal?_some (shortest_found exponent positive)
  rw [← reached] at longer
  have leading := (around_spans exponent positive).leading longer holds many (Nat.lt_of_not_le few)
  have higher := shortest_coarsest canonical positive leading
  rw [← reached] at higher
  have digitless : k = 0 := by
    push_cast at higher
    omega
  have := holds_pos positive holds
  simp [digitless] at few
  omega

theorem shortest_nearest {digits : Nat} (positive : 0 < significand)
    (holds : (around significand exponent).Holds digits (shortest (around significand exponent)).2) :
    (around significand exponent).offset (shortest (around significand exponent)).1
        (shortest (around significand exponent)).2 ≤
      (around significand exponent).offset digits (shortest (around significand exponent)).2 :=
  (around_spans exponent positive).decimal?_nearest (shortest_found exponent positive) holds

-- The least number, which 3e-324 and 7e-324 are read back as too.
example : shortest (around 1 0) = (5, -324) := by decide +kernel

/-! Intervals share at most an end, and then the significand of one of them is odd. -/

structure Interval.Apart (first second : Interval) : Prop where
  le : first.high ≤ second.low
  lt : first.closed = true → second.closed = true → first.high < second.low

theorem Interval.Apart.scale {first second : Interval} {factor : Nat} (apart : first.Apart second)
    (positive : 0 < factor) : (first.scale factor).Apart (second.scale factor) :=
  ⟨Nat.mul_le_mul_right factor apart.le,
    fun left right => Nat.mul_lt_mul_of_pos_right (apart.lt left right) positive⟩

theorem Interval.Apart.contains {first second : Interval} {n : Nat} (apart : first.Apart second)
    (left : first.Spans) (right : second.Spans) (within : first.contains n = true) : ¬second.contains n = true := by
  intro both
  have le := apart.le
  have high := (left.bounds within).2
  have low := (right.bounds both).1
  have ended : first.closed = true := by
    obtain ⟨-, inner⟩ | ⟨closed, -⟩ := Interval.contains_iff.mp within
    · omega
    · exact closed
  have begun : second.closed = true := by
    obtain ⟨inner, -⟩ | ⟨closed, -⟩ := Interval.contains_iff.mp both
    · omega
    · exact closed
  have := apart.lt ended begun
  omega

/-- Between two numbers of one exponent. -/
theorem around_next (exponent : Nat) (less : significand < otherSignificand) :
    (around significand exponent).Apart (around otherSignificand exponent) := by
  have power := two_pow_pos exponent
  refine ⟨Nat.mul_le_mul_right _ ?_, fun left right => Nat.mul_lt_mul_of_pos_right ?_ power⟩
  · split <;> omega
  · have even : significand % 2 = 0 := of_decide_eq_true left
    have otherEven : otherSignificand % 2 = 0 := of_decide_eq_true right
    split <;> omega

/-- The last number of an exponent ends half way to the first one of the next, which begins there. -/
theorem around_carry (canonical : Canonical significand exponent) (other : Canonical otherSignificand otherExponent)
    (less : exponent < otherExponent) :
    (around significand exponent).Apart (around otherSignificand otherExponent) := by
  have short := canonical.short
  have normal : implied ≤ otherSignificand := other.normal.resolve_left (by omega)
  have power : 2 * Nat.pow 2 exponent ≤ Nat.pow 2 otherExponent := by
    rw [Nat.mul_comm]
    exact Nat.pow_le_pow_right (show 0 < 2 by decide) less
  have begins : (4 * implied - 1) * (2 * Nat.pow 2 exponent) ≤ (around otherSignificand otherExponent).low := by
    refine Nat.mul_le_mul ?_ power
    split
    · omega
    · simp_all
      omega
  have ends : (8 * implied - 2) * Nat.pow 2 exponent = (4 * implied - 1) * (2 * Nat.pow 2 exponent) := by
    rw [show 8 * implied - 2 = (4 * implied - 1) * 2 by omega, Nat.mul_assoc]
  refine ⟨?_, fun left _ => ?_⟩
  · exact (Nat.mul_le_mul_right _ (by omega)).trans (ends.trans_le begins)
  · have even : significand % 2 = 0 := of_decide_eq_true left
    exact (Nat.mul_lt_mul_of_pos_right (by omega) (two_pow_pos exponent)).trans_le (ends.trans_le begins)

/-- A decimal is read back as one number only. -/
theorem holds_unique {digits : Nat} {power : Int} (canonical : Canonical significand exponent)
    (positive : 0 < significand) (other : Canonical otherSignificand otherExponent)
    (otherPositive : 0 < otherSignificand) (first : (around significand exponent).Holds digits power)
    (second : (around otherSignificand otherExponent).Holds digits power) :
    significand = otherSignificand ∧ exponent = otherExponent := by
  have scale := Interval.ten_pow_pos (-power).toNat
  have spans := (around_spans exponent positive).scale scale
  have otherSpans := (around_spans otherExponent otherPositive).scale scale
  rcases Nat.lt_trichotomy exponent otherExponent with less | rfl | more
  · exact absurd second (((around_carry canonical other less).scale scale).contains spans otherSpans first)
  · rcases Nat.lt_trichotomy significand otherSignificand with less | rfl | more
    · exact absurd second (((around_next exponent less).scale scale).contains spans otherSpans first)
    · exact ⟨rfl, rfl⟩
    · exact absurd first (((around_next exponent more).scale scale).contains otherSpans spans second)
  · exact absurd first (((around_carry other canonical more).scale scale).contains otherSpans spans second)

/-- What is written tells which number it was written for. -/
theorem shortest_injective (canonical : Canonical significand exponent) (positive : 0 < significand)
    (other : Canonical otherSignificand otherExponent) (otherPositive : 0 < otherSignificand)
    (same : shortest (around significand exponent) = shortest (around otherSignificand otherExponent)) :
    significand = otherSignificand ∧ exponent = otherExponent := by
  have first := Interval.decimal?_some (shortest_found exponent positive)
  rw [same] at first
  exact holds_unique canonical positive other otherPositive first
    (Interval.decimal?_some (shortest_found otherExponent otherPositive))

end DigitCalc.Text.Floating
