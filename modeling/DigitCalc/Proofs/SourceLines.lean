import DigitCalc.Proofs.Classification
import DigitCalc.Proofs.Reports
import DigitCalc.Proofs.Respelling
import DigitCalc.Proofs.Streams

/-! The source of an expression as a line that is entered: it arrives as it was written and has the value of the
expression. Some of these values are too long to be written. -/
namespace DigitCalc

namespace Text.Blank

def Bare (text : List Char) : Prop :=
  (∃ c rest, text = c :: rest ∧ isBlank c = false) ∧ ∃ rest c, text = rest ++ [c] ∧ isBlank c = false

theorem bare_append {first last : List Char} (one : Bare first) (middle : List Char) (two : Bare last) :
    Bare (first ++ (middle ++ last)) := by
  obtain ⟨⟨c, rest, rfl, front⟩, _⟩ := one
  obtain ⟨_, before, d, rfl, back⟩ := two
  exact ⟨⟨c, rest ++ (middle ++ (before ++ [d])), rfl, front⟩, c :: rest ++ (middle ++ before), d, by simp, back⟩

theorem bare_single {c : Char} (dark : isBlank c = false) : Bare [c] :=
  ⟨⟨c, [], rfl, dark⟩, [], c, rfl, dark⟩

theorem trim_bare {text : String} (bare : Bare text.toList) : trim text = text := by
  obtain ⟨⟨c, rest, starts, front⟩, before, d, ends, back⟩ := bare
  have kept : text.toList.dropWhile isBlank = text.toList := by
    rw [starts, List.dropWhile_cons_of_neg (by simp [front])]
  have turned : text.toList.reverse.dropWhile isBlank = text.toList.reverse := by
    rw [ends, List.reverse_append, List.reverse_singleton, List.singleton_append,
      List.dropWhile_cons_of_neg (by simp [back])]
  rw [trim, stripped, kept, turned, List.reverse_reverse, String.ofList_toList]

end Text.Blank

namespace InputLine
open Text

/-- A line that arrives as it is written. -/
def Plain (line : String) : Prop :=
  Blank.Bare line.toList ∧ ∀ c ∈ line.toList, Line.isNewline c = false

theorem Plain.append {first middle last : String} (one : Plain first)
    (between : ∀ c ∈ middle.toList, Line.isNewline c = false) (two : Plain last) :
    Plain (first ++ (middle ++ last)) := by
  rw [Plain, String.toList_append, String.toList_append]
  exact ⟨Blank.bare_append one.1 _ two.1,
    List.forall_mem_append.mpr ⟨one.2, List.forall_mem_append.mpr ⟨between, two.2⟩⟩⟩

theorem Plain.single {c : Char} (dark : Blank.isBlank c = false) (inside : Line.isNewline c = false) :
    Plain (String.singleton c) := by
  rw [Plain, String.toList_singleton]
  exact ⟨Blank.bare_single dark, by simpa using inside⟩

theorem ofLines_plain {line : String} (plain : Plain line) (ends : Stream.LineEnds) (rest : String) :
    ofLines (Stream.lines ends (line ++ ("\n" ++ rest))) = line :: ofLines (Stream.lines ends rest) := by
  have joined : (line ++ ("\n" ++ rest)).toList = line.toList ++ '\n' :: rest.toList := by simp
  rw [Stream.lines, joined, Stream.read_line plain.2, List.map_cons, String.ofList_toList, ofLines, List.map_cons,
    Blank.trim_bare plain.1]
  rfl

theorem ofText_plain {line : String} (plain : Plain line) (rest : String) :
    ofText (line ++ ("\n" ++ rest)) = line :: ofText rest := by
  have read (text : String) := @ofLines_lines .newlines text nofun
  rw [← read, ← read, ofLines_plain plain]

theorem lexical_loud {line : String} (known : Lexical line) (plain : Plain line) : isSilent line = false := by
  obtain ⟨⟨⟨c, rest, starts, _⟩, _⟩, _⟩ := plain
  have among : c ∈ Reader.alphabet := known c (by simp [starts])
  have some : line ≠ "" := by
    rintro rfl
    cases starts
  have unmarked : c ≠ '#' := by
    rintro rfl
    exact absurd among (by decide)
  simp [isSilent, some, starts, unmarked]

end InputLine

namespace Expr
open InputLine

theorem wrap_plain {text : String} (plain : Plain text) (needed : Bool) : Plain (wrap needed text) := by
  cases needed with
  | false => exact plain
  | true =>
      have opening : Plain "(" := @Plain.single '(' (by decide) (by decide)
      have closing : Plain ")" := @Plain.single ')' (by decide) (by decide)
      rw [wrap, if_pos rfl, String.append_assoc]
      exact opening.append plain.2 closing

theorem text_plain (tree : Expr) : Plain tree.text := by
  induction tree with
  | digit value place =>
      have digits : ∀ value : Fin 10, Text.Blank.isBlank (Nat.digitChar value) = false ∧
          Text.Line.isNewline (Nat.digitChar value) = false := by decide
      exact .single (digits value).1 (digits value).2
  | negative operand place ih =>
      have sign : Plain "-" := @Plain.single '-' (by decide) (by decide)
      have written := @Plain.append "-" "" _ sign (by simp) (wrap_plain ih (needsGroupNegated operand))
      rwa [String.empty_append] at written
  | binary operator left right place ih_left ih_right =>
      have signs : ∀ c ∈ (" " ++ operator.symbol ++ " ").toList, Text.Line.isNewline c = false := by
        cases operator <;> exact List.all_iff_forall_prop.mp (by decide)
      exact (wrap_plain ih_left _).append signs (wrap_plain ih_right _)

theorem value_negative_ok {operand : Expr} {place : Place} {n : Int}
    (valued : (negative operand place).value (fun _ => true) = .ok n) :
    ∃ x, operand.value (fun _ => true) = .ok x ∧ n = -x := by
  cases inner : operand.value fun _ => true with
  | error fault => simp [value, inner, bind, Except.bind] at valued
  | ok x => exact ⟨x, rfl, by simpa [value, inner, bind, Except.bind, eq_comm] using valued⟩

theorem value_binary_ok {operator : Operator} {left right : Expr} {place : Place} {n : Int}
    (valued : (binary operator left right place).value (fun _ => true) = .ok n) :
    ∃ x y, left.value (fun _ => true) = .ok x ∧ right.value (fun _ => true) = .ok y ∧
      operator.apply place x y = .ok n := by
  rw [value_binary] at valued
  cases first : left.value fun _ => true with
  | error fault => simp [first, Except.bind] at valued
  | ok x =>
      cases last : right.value fun _ => true with
      | error fault => simp [first, last, Except.bind] at valued
      | ok y => exact ⟨x, y, rfl, rfl, by simpa [first, last, Except.bind] using valued⟩

theorem apply_place {operator : Operator} {place : Place} {x y n : Int} (applied : operator.apply place x y = .ok n)
    (there : Place) : operator.apply there x y = .ok n := by
  cases operator with
  | div =>
      by_cases zero : y = 0
      · simp [Operator.apply, zero] at applied
      · simpa [Operator.apply, zero] using applied
  | _ => exact applied

theorem alike_value {a b : Expr} {n : Int} (alike : a.alike b = true) (valued : b.value (fun _ => true) = .ok n) :
    a.value (fun _ => true) = .ok n := by
  induction a, b using Expr.alike.induct generalizing n with
  | case1 number place other there =>
      cases eq_of_beq alike
      exact valued
  | case2 operand place other there ih =>
      obtain ⟨x, inner, rfl⟩ := value_negative_ok valued
      simp [value, ih alike inner, bind, Except.bind]
  | case3 operator left right place sign first last there ih_left ih_right =>
      have parts : (operator = sign ∧ left.alike first = true) ∧ right.alike last = true := by
        simpa [Expr.alike] using alike
      obtain ⟨⟨rfl, lefts⟩, rights⟩ := parts
      obtain ⟨x, y, one, two, applied⟩ := value_binary_ok valued
      rw [value_binary, ih_left lefts one, ih_right rights two]
      exact apply_place applied place
  -- Nodes of different kinds are not alike.
  | case4 a b digits negatives binaries => simp_all [Expr.alike]

theorem alike_evaluate {a b : Expr} {n : Int} (alike : a.alike b = true) (valued : b.evaluate = .ok n) :
    a.evaluate = .ok n := by
  rw [evaluate, evaluateWith_value] at valued ⊢
  exact alike_value alike valued

/-- The source of an expression has the value of the expression, unless it opens too many levels. -/
theorem calculate_text {stack : Stack} {tree : Expr} {limit n : Int} (positive : 1 ≤ limit) (low : limit ≤ stack.groups)
    (deep : tree.nesting ≤ limit) (valued : tree.evaluate = .ok n) : calculate stack tree.text limit = .ok n := by
  -- The text is read as a tree like this one, which differs in its places only.
  have written := tree.text_writes.loosen .expression (by cases tree.kind.level <;> decide)
  obtain ⟨again, spelled, alike⟩ := written.2 .start
  have read : Token.ofText tree.text = .ok (Reader.tokensFrom .start tree.text.toList) := by
    rw [Reader.ofText_reading, Reader.reading_known .start written.1]
  rw [calculate_parsed read (ofTokens_spelled positive low read ⟨_, spelled, deep⟩), alike_evaluate alike valued]
  rfl

theorem text_lexical (tree : Expr) : Lexical tree.text :=
  tree.text_writes.1

/-! Products of nines. -/

def nines : Nat → Expr
  | 0 => .digit (Fin.last 9) default
  | n + 1 => .binary .prod (nines n) (.digit (Fin.last 9) default) default

theorem nines_nesting (n : Nat) : (nines n).nesting = 0 := by
  induction n with
  | zero => rfl
  | succ n ih =>
      have bare : needsGroupLeft .prod (nines n) = false := by cases n <;> rfl
      rw [nines, nesting, if_neg (by simp [bare]), ih]
      rfl

theorem nines_evaluate (n : Nat) : (nines n).evaluate = .ok (Nat.pow 9 (n + 1)) := by
  rw [evaluate, evaluateWith_value]
  induction n with
  | zero => rfl
  | succ n ih =>
      rw [nines, value_binary, ih, Nat.pow_eq, Nat.pow_eq, Nat.pow_succ, Int.natCast_mul]
      rfl

end Expr

theorem power_nine (n : Nat) : Nat.pow 10 (104 * n + 36) ≤ Nat.pow 9 (109 * n + 38) := by
  rw [Nat.pow_eq, Nat.pow_eq, Nat.pow_add, Nat.pow_mul, Nat.pow_add 9, Nat.pow_mul 9]
  exact Nat.mul_le_mul (Nat.pow_le_pow_left (by decide) n) (by decide)

def longProduct : String :=
  (Expr.nines 4506).text

theorem longProduct_lexical : Lexical longProduct :=
  Expr.text_lexical _

theorem longProduct_plain : InputLine.Plain longProduct :=
  Expr.text_plain _

theorem longProduct_value {stack : Stack} {limit : Int} (positive : 1 ≤ limit) (low : limit ≤ stack.groups) :
    ∃ value, calculate stack longProduct limit = .ok value ∧ ¬ Text.Numeral.Short value := by
  have deep : ((Expr.nines 4506).nesting : Int) ≤ limit := by
    rw [Expr.nines_nesting]
    omega
  refine ⟨_, Expr.calculate_text positive low deep (Expr.nines_evaluate 4506), ?_⟩
  -- Exponents are rewritten as multiples, so that no power is worked out.
  have digits : Text.Numeral.mostDigits = 104 * 41 + 36 := rfl
  have factors : 4506 + 1 = 109 * 41 + 38 := rfl
  rw [Text.Numeral.Short, Int.natAbs_natCast, digits, factors]
  exact Nat.not_lt_of_le (power_nine 41)

end DigitCalc
