import DigitCalc.Proofs.Respacing
import DigitCalc.Proofs.SourceLines

/-! Texts put together. A text with a value keeps it in parentheses, wherever they stand: its tokens are at other places
and one level deeper, and that is all. So two texts in parentheses with an operator between them come to what the
operator makes of their values. -/
namespace DigitCalc

section Moved
variable {tokens others : List Token} {tree : Expr} {nesting : Nat}

theorem within_moved {limit : Int} (natural : 0 ≤ limit)
    (same : others.map (Token.relocate .merged) = tokens.map (Token.relocate .merged))
    (spelled : Grammar.SpellsWithin limit tokens tree) :
    ∃ again, Grammar.SpellsWithin limit others again ∧ again.relocate .merged = tree.relocate .merged := by
  have merged := Grammar.whole_relocate .merged limit .unbounded others
  rw [same, Grammar.whole_relocate, (Grammar.whole_ok_iff limit natural tokens tree).mpr spelled] at merged
  cases read : Grammar.whole limit .unbounded others with
  | error fault =>
      rw [read] at merged
      cases merged
  | ok again =>
      rw [read] at merged
      exact ⟨again, (Grammar.whole_ok_iff limit natural others again).mp read, (Except.ok.inj merged).symm⟩

/-- What tokens spell, and at which nesting, does not depend on their places. -/
theorem spells_moved (same : others.map (Token.relocate .merged) = tokens.map (Token.relocate .merged))
    (spelled : Grammar.Spells .expression tokens tree nesting) :
    ∃ again, Grammar.Spells .expression others again nesting ∧ again.relocate .merged = tree.relocate .merged := by
  -- Either nesting is a limit within which the other tokens can be spelled, so neither is below the other.
  obtain ⟨again, ⟨depth, moved, shallow⟩, merged⟩ :=
    within_moved (Int.natCast_nonneg nesting) same ⟨nesting, spelled, Int.le_refl _⟩
  obtain ⟨back, ⟨height, returned, low⟩, _⟩ :=
    within_moved (Int.natCast_nonneg depth) same.symm ⟨depth, moved, Int.le_refl _⟩
  have level : nesting = height := (Grammar.spells_unique spelled returned).2
  have equal : depth = nesting := by omega
  subst depth
  exact ⟨again, moved, merged⟩

end Moved

section Parts
variable {stack : Stack} {source : String} {limit value x y : Int} {tree again left right : Expr} {nesting : Nat}
variable {operator : Operator}
variable {place : Place}

theorem calculate_writes (valued : calculate stack source limit = .ok value) :
    1 ≤ limit ∧ ∃ tree nesting, Writes .expression source tree nesting ∧ nesting ≤ limit ∧
      tree.evaluate = .ok value := by
  obtain ⟨tokens, tree, read, parsed, outcome⟩ := calculate_valued valued
  obtain ⟨known, rfl⟩ := Reader.ofText_ok read
  obtain ⟨positive, _, nesting, spelled, fits⟩ := Grammar.ofTokensWith_ok parsed
  refine ⟨positive, tree, nesting, ⟨known, ?_⟩, fits, outcome⟩
  intro here
  obtain ⟨again, moved, merged⟩ :=
    spells_moved ((Reader.tokensFrom_merged here _).trans (Reader.tokensFrom_merged .start _).symm) spelled
  exact ⟨again, moved, Expr.alike_of_relocate merged⟩

/-- The text comes to the outcome, unless the stack does not hold its groups. -/
def ComesTo (stack : Stack) (source : String) (limit : Int) (outcome : Except Failure Int) : Prop :=
  calculate stack source limit = outcome ∨
    calculate stack source limit = .error (.parsing .outOfCalls) ∧ stack.groups < limit

theorem ComesTo.low {outcome : Except Failure Int} (comes : ComesTo stack source limit outcome)
    (low : limit ≤ stack.groups) :
    calculate stack source limit = outcome := by
  rcases comes with same | ⟨_, high⟩
  · exact same
  · omega

theorem Writes.comes (written : Writes .expression source tree nesting) (positive : 1 ≤ limit)
    (fits : nesting ≤ limit) :
    ∃ again : Expr, again.alike tree = true ∧ ComesTo stack source limit (again.evaluate.mapError .evaluation) := by
  obtain ⟨again, spelled, alike⟩ := written.2 .start
  have read : Token.ofText source = .ok (Reader.tokensFrom .start source.toList) := by
    rw [Reader.ofText_reading, Reader.reading_known .start written.1]
  have parsed := (Grammar.whole_ok_iff limit (by omega) _ again).mpr ⟨nesting, spelled, fits⟩
  refine ⟨again, alike, ?_⟩
  rcases Grammar.ofTokens_counted positive (ofText_legible read) with same | ⟨out, high⟩
  · exact Or.inl (calculate_parsed read (same.trans parsed))
  · exact Or.inr ⟨calculate_unparsed read out, high⟩

theorem Expr.alike_binary (alike : again.alike (.binary operator left right place) = true)
    (lefts : left.evaluate = .ok x) (rights : right.evaluate = .ok y) :
    ∃ there, again.evaluate = operator.apply there x y := by
  cases again with
  | digit value there => simp [Expr.alike] at alike
  | negative operand there => simp [Expr.alike] at alike
  | binary sign first last there =>
      have parts : (sign = operator ∧ first.alike left = true) ∧ last.alike right = true := by
        simpa [Expr.alike] using alike
      obtain ⟨⟨rfl, first_alike⟩, last_alike⟩ := parts
      have first_valued := alike_evaluate first_alike lefts
      have last_valued := alike_evaluate last_alike rights
      rw [evaluate, evaluateWith_value] at first_valued last_valued
      refine ⟨there, ?_⟩
      rw [evaluate, evaluateWith_value, value_binary, first_valued, last_valued]
      rfl

end Parts

def joined (sign first second : String) : String :=
  "(" ++ first ++ ")" ++ sign ++ "(" ++ second ++ ")"

def negated (text : String) : String :=
  "-(" ++ text ++ ")"

section Joined
variable {stack : Stack} {first second : String} {limit x y : Int}

theorem symbol_separates (operator : Operator) : Writes.Separates operator operator.symbol := by
  constructor
  · cases operator <;> exact Reader.alphabet_of_all (by decide)
  · intro here
    cases operator <;> exact ⟨_, rfl, rfl⟩

theorem calculate_joined (operator : Operator) (left : calculate stack first limit = .ok x)
    (right : calculate stack second limit = .ok y) :
    ∃ place, ComesTo stack (joined operator.symbol first second) (limit + 1)
      ((operator.apply place x y).mapError .evaluation) := by
  obtain ⟨positive, one, m, first_written, first_fits, first_valued⟩ := calculate_writes left
  obtain ⟨_, two, n, second_written, second_fits, second_valued⟩ := calculate_writes right
  -- A group is an atom, which goes on every level.
  have lefts := first_written.group.loosen operator.level (by cases operator <;> decide)
  have rights := second_written.group.loosen operator.operandLevel (by cases operator <;> decide)
  have chain := lefts.separated default (symbol_separates operator) rights
  have written := chain.loosen .expression (by cases operator <;> decide)
  have text : "(" ++ first ++ ")" ++ (operator.symbol ++ ("(" ++ second ++ ")")) =
      joined operator.symbol first second := by
    simp only [joined, String.append_assoc]
  rw [text] at written
  obtain ⟨again, alike, comes⟩ := @Writes.comes stack _ (limit + 1) _ _ written (by omega) (by omega)
  obtain ⟨place, outcome⟩ := Expr.alike_binary alike first_valued second_valued
  rw [outcome] at comes
  exact ⟨place, comes⟩

theorem calculate_negated (left : calculate stack first limit = .ok x) :
    ComesTo stack (negated first) (limit + 2) (.ok (-x)) := by
  obtain ⟨positive, tree, nesting, written, fits, valued⟩ := calculate_writes left
  have signed := (written.group.negative default).loosen .expression (by decide)
  have text : "-" ++ ("(" ++ first ++ ")") = negated first := by
    rw [negated, ← String.append_assoc, ← String.append_assoc]
    rfl
  rw [text] at signed
  have opposite : (Expr.negative tree default).evaluate = .ok (-x) := by
    rw [Expr.evaluate, Expr.evaluateWith_value] at valued ⊢
    rw [Expr.value, valued]
    rfl
  obtain ⟨again, alike, comes⟩ := @Writes.comes stack _ (limit + 2) _ _ signed (by omega) (by omega)
  rw [Expr.alike_evaluate alike opposite] at comes
  exact comes

end Joined

/-- Two texts in parentheses come to what an operator between them makes of their values, with one level more to open.
A quotient is cut off toward zero, and there is none by zero. The opposite of a text takes two levels more. -/
theorem calculate_composed {stack : Stack} {first second : String} {limit x y : Int}
    (left : calculate stack first limit = .ok x)
    (right : calculate stack second limit = .ok y) :
    ComesTo stack (joined "+" first second) (limit + 1) (.ok (x + y)) ∧
    ComesTo stack (joined "-" first second) (limit + 1) (.ok (x - y)) ∧
    ComesTo stack (joined "*" first second) (limit + 1) (.ok (x * y)) ∧
    (y ≠ 0 → ∃ quotient, Truncates x y quotient ∧ ComesTo stack (joined "/" first second) (limit + 1) (.ok quotient)) ∧
    (y = 0 → ∃ place,
      ComesTo stack (joined "/" first second) (limit + 1) (.error (.evaluation (.divisionByZero place))) ∧
      (Failure.evaluation (.divisionByZero place)).message = "division by zero") ∧
    ComesTo stack (negated first) (limit + 2) (.ok (-x)) := by
  obtain ⟨_, sum⟩ := calculate_joined .sum left right
  obtain ⟨_, difference⟩ := calculate_joined .diff left right
  obtain ⟨_, product⟩ := calculate_joined .prod left right
  obtain ⟨place, quotient⟩ := calculate_joined .div left right
  refine ⟨sum, difference, product, ?_, ?_, calculate_negated left⟩
  · intro nonzero
    rw [Operator.apply, if_neg nonzero] at quotient
    exact ⟨x.tdiv y, (truncates_iff x y nonzero _).mpr rfl, quotient⟩
  · intro zero
    rw [Operator.apply, if_pos zero] at quotient
    exact ⟨place, quotient, rfl⟩

theorem parts_valued : calculate .ofCommand "1-8" 1 = .ok (-7) ∧ calculate .ofCommand "2" 1 = .ok 2 ∧
    calculate .ofCommand "0" 1 = .ok 0 := by
  have difference : Token.ofText "1-8" =
      .ok [⟨.digit, .int 1, ⟨1, 1⟩⟩, ⟨.minus, .text "-", ⟨1, 2⟩⟩, ⟨.digit, .int 8, ⟨1, 3⟩⟩] := by
    rw [Reader.ofText_reading]
    decide
  have two : Token.ofText "2" = .ok [⟨.digit, .int 2, ⟨1, 1⟩⟩] := by
    rw [Reader.ofText_reading]
    decide
  have zero : Token.ofText "0" = .ok [⟨.digit, .int 0, ⟨1, 1⟩⟩] := by
    rw [Reader.ofText_reading]
    decide
  refine ⟨?_, ?_, ?_⟩
  · rw [@calculate_parsed .ofCommand _ 1 _ (.binary .diff (.digit 1 ⟨1, 1⟩) (.digit 8 ⟨1, 3⟩) ⟨1, 2⟩) difference rfl,
      Expr.evaluate, Expr.evaluateWith_value]
    rfl
  · rw [@calculate_parsed .ofCommand _ 1 _ (.digit 2 ⟨1, 1⟩) two rfl, Expr.evaluate, Expr.evaluateWith_value]
    rfl
  · rw [@calculate_parsed .ofCommand _ 1 _ (.digit 0 ⟨1, 1⟩) zero rfl, Expr.evaluate, Expr.evaluateWith_value]
    rfl

theorem calculate_composed_negativeOverTwo :
    calculate .ofCommand "1-8" 1 = .ok (-7) ∧ calculate .ofCommand "2" 1 = .ok 2 ∧ calculate .ofCommand "0" 1 = .ok 0 ∧
    calculate .ofCommand "(1-8)/(2)" 2 = .ok (-3) ∧ calculate .ofCommand "-(1-8)" 3 = .ok 7 ∧
    ∃ place, calculate .ofCommand "(1-8)/(0)" 2 = .error (.evaluation (.divisionByZero place)) := by
  obtain ⟨difference, two, zero⟩ := parts_valued
  obtain ⟨_, _, _, shared, _, opposite⟩ := calculate_composed difference two
  obtain ⟨_, _, _, _, beyond, _⟩ := calculate_composed difference zero
  obtain ⟨quotient, cut, comes⟩ := shared (by decide)
  have whole : quotient = -3 := (truncates_iff (-7) 2 (by decide) quotient).mp cut
  subst quotient
  obtain ⟨place, divided, _⟩ := beyond rfl
  exact ⟨difference, two, zero, comes.low (by decide), opposite.low (by decide), place, divided.low (by decide)⟩

end DigitCalc
