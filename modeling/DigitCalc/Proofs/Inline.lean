import DigitCalc.Command
import DigitCalc.Proofs.Batches

/-! An expression given to the command itself. A minus sign in front makes it look like an option, and it is taken as
one unless it has a space in it or is nothing but a negative number. -/
namespace DigitCalc

namespace Word
variable {text : String} {chars : List Char}

def NegativeNumber (chars : List Char) : Prop :=
  ∃ digits, digits ≠ [] ∧ (∀ c ∈ digits, '0' ≤ c ∧ c ≤ '9') ∧
    (chars = '-' :: digits ∨ chars = '-' :: (digits ++ ['\n']))

/-- A text that is no option, though it may look like one. -/
def Taken (text : String) : Prop :=
  text.toList.head? ≠ some '-' ∨ ' ' ∈ text.toList ∨ NegativeNumber text.toList

/-! Of an expression's characters none is the letter of a flag, and none parts a flag from its value. -/

theorem ofShort?_alphabet : ∀ c ∈ Reader.alphabet, Flag.ofShort? c = none :=
  List.all_iff_forall_prop.mp (by decide)

theorem ofExact?_lexical (known : Lexical text) : Flag.ofExact? text = none := by
  unfold Flag.ofExact?
  split
  · next c short =>
      rw [ofShort?_alphabet c (known c (by simp [short]))]
      rfl
  · have letters : ∀ flag ∈ Flag.all, flag.long.toList.any (!Reader.alphabet.contains ·) = true := by decide
    have none : (Flag.all.find? fun flag => flag.long == text) = none := by
      apply List.find?_eq_none.mpr
      intro flag member spelled
      obtain ⟨c, letter, foreign⟩ := List.any_eq_true.mp (letters flag member)
      rw [eq_of_beq spelled] at letter
      simp [known c letter] at foreign
    rw [none]
    rfl

theorem cut_lexical (known : Lexical text) : cut text.toList = (text.toList, none) := by
  have inside : ∀ c ∈ text.toList, decide (c ≠ '=') = true := by
    have unequal : ∀ c ∈ Reader.alphabet, decide (c ≠ '=') = true := List.all_iff_forall_prop.mp (by decide)
    exact fun c member => unequal c (known c member)
  rw [cut, List.takeWhile_eq_self_iff.mpr inside, List.dropWhile_eq_nil_iff.mpr inside]
  rfl

theorem startingWith_lexical {c : Char} (among : c ∈ Reader.alphabet) (more : List Char) :
    Flag.startingWith ('-' :: '-' :: c :: more) = [] := by
  have letters : ∀ flag ∈ Flag.all, flag.long.toList[2]?.all (!Reader.alphabet.contains ·) = true := by decide
  apply List.filter_eq_nil_iff.mpr
  intro flag member begins
  obtain ⟨rest, spelled⟩ := List.isPrefixOf_iff_prefix.mp begins
  have letter := letters flag member
  simp [← spelled, among] at letter

/-! The texts that are taken for a negative number. -/

theorem digit?_alphabet : ∀ c ∈ Reader.alphabet,
    ((Text.DecimalDigit.digit? c).isSome = true ↔ '0' ≤ c ∧ c ≤ '9') :=
  List.all_iff_forall_prop.mp (by decide)

def tail (chars : List Char) : List Char :=
  chars.dropWhile fun c => (Text.DecimalDigit.digit? c).isSome

theorem digits_tail (chars : List Char) :
    ∃ digits, chars = digits ++ tail chars ∧ ∀ c ∈ digits, (Text.DecimalDigit.digit? c).isSome = true := by
  refine ⟨_, List.takeWhile_append_dropWhile.symm, ?_⟩
  intro c member
  have decimal := List.mem_takeWhile_imp member
  exact decimal

theorem isWhole_tail (chars : List Char) : isWhole chars = true ↔
    (tail chars).length < chars.length ∧ (tail chars = [] ∨ tail chars = ['\n']) := by
  change (decide ((tail chars).length < chars.length) && (decide (tail chars = []) || decide (tail chars = ['\n']))) =
    true ↔ _
  simp

theorem tail_digits {digits : List Char} (known : ∀ c ∈ digits, c ∈ Reader.alphabet)
    (range : ∀ c ∈ digits, '0' ≤ c ∧ c ≤ '9') (rest : List Char) : tail (digits ++ rest) = tail rest := by
  apply List.dropWhile_append_of_pos
  exact fun c member => (digit?_alphabet c (known c member)).mpr (range c member)

theorem isWhole_iff (known : ∀ c ∈ chars, c ∈ Reader.alphabet) : isWhole chars = true ↔
    ∃ digits, digits ≠ [] ∧ (∀ c ∈ digits, '0' ≤ c ∧ c ≤ '9') ∧ (chars = digits ∨ chars = digits ++ ['\n']) := by
  rw [isWhole_tail]
  constructor
  · rintro ⟨shorter, ended⟩
    obtain ⟨digits, parted, decimal⟩ := digits_tail chars
    refine ⟨digits, ?_, ?_, ?_⟩
    -- Without a digit nothing would have been passed.
    · rintro rfl
      rw [List.nil_append] at parted
      rw [← parted] at shorter
      exact Nat.lt_irrefl _ shorter
    · intro c member
      have inside : c ∈ chars := by
        rw [parted]
        exact List.mem_append_left _ member
      exact (digit?_alphabet c (known c inside)).mp (decimal c member)
    · rcases ended with none | feed
      · rw [none, List.append_nil] at parted
        exact Or.inl parted
      · rw [feed] at parted
        exact Or.inr parted
  · rintro ⟨digits, some, range, rfl | rfl⟩
    · have none : tail chars = [] := by
        rw [← List.append_nil chars, tail_digits known range]
        rfl
      exact ⟨by simpa [none, List.length_pos_iff] using some, Or.inl none⟩
    · have feed : tail (digits ++ ['\n']) = ['\n'] := by
        rw [tail_digits (fun c member => known c (by simp [member])) range]
        rfl
      exact ⟨by simpa [feed, List.length_pos_iff] using some, Or.inr feed⟩

theorem isNegativeNumber_minus {rest : List Char} (known : ∀ c ∈ rest, c ∈ Reader.alphabet) :
    isNegativeNumber ('-' :: rest) = isWhole rest := by
  -- A fraction would need a point, which no expression has.
  have pointless : ∀ fraction, tail rest ≠ '.' :: fraction := by
    intro fraction point
    have member : '.' ∈ rest := (List.dropWhile_suffix _).subset (by rw [← tail, point]; exact List.mem_cons_self)
    exact absurd (known _ member) (by decide)
  rw [isNegativeNumber]
  split
  · next fraction point => exact absurd point (pointless fraction)
  · exact Bool.or_false _

theorem isNegativeNumber_iff {rest : List Char} (known : ∀ c ∈ rest, c ∈ Reader.alphabet) :
    isNegativeNumber ('-' :: rest) = true ↔ NegativeNumber ('-' :: rest) := by
  rw [isNegativeNumber_minus known, isWhole_iff known]
  simp [NegativeNumber]

/-! An argument that is an expression. -/

theorem ofText_unsigned (front : text.toList.head? ≠ some '-') : ofText text = .ok (.value text) := by
  unfold ofText
  split
  · next bare => simp [bare] at front
  · next rest signed => simp [signed] at front
  · rfl

def signedWord (text : String) : Word :=
  if isNegativeNumber text.toList || text.toList.contains ' ' then .value text else .unknown text

theorem ofNearFlag_lexical {rest : List Char} (known : Lexical text) (signed : text.toList = '-' :: rest)
    (unmarked : text ≠ "--") : ofNearFlag text = .ok (signedWord text) := by
  have cuts := cut_lexical known
  have among : ∀ c ∈ text.toList, c ∈ Reader.alphabet := known
  -- Two signs may begin a long flag, one sign a short one; each time the next character is no letter.
  have marks : text.toList ≠ ['-', '-'] := fun same => unmarked (String.toList_inj.mp same)
  unfold ofNearFlag signedWord
  rw [signed] at cuts among marks ⊢
  cases rest with
  | nil => rfl
  | cons c more =>
      by_cases twice : c = '-'
      · subst c
        cases more with
        | nil => exact absurd rfl marks
        | cons d more => simp only [cuts, startingWith_lexical (among d (by simp)) more]
      · have short := ofShort?_alphabet c (among c (by simp))
        simp only []
        split
        · next long =>
            cases long
            exact absurd rfl twice
        · next same =>
            cases same
            rw [short]
        · rfl

theorem ofText_signed {rest : List Char} (known : Lexical text) (signed : text.toList = '-' :: rest) (some : text ≠ "-")
    (unmarked : text ≠ "--") : ofText text = .ok (signedWord text) := by
  unfold ofText
  split
  · next bare => exact absurd (String.toList_inj.mp bare) some
  · rw [ofExact?_lexical known, cut_lexical known]
    exact ofNearFlag_lexical known signed unmarked
  · next other => exact absurd signed (other rest)

/-- An expression is a value or an option that does not exist. -/
theorem ofText_expression (known : Lexical text) (some : text ≠ "-") (unmarked : text ≠ "--") :
    (Taken text → ofText text = .ok (.value text)) ∧ (¬ Taken text → ofText text = .ok (.unknown text)) := by
  by_cases front : text.toList.head? = Option.some '-'
  · obtain ⟨rest, signed⟩ := List.head?_eq_some_iff.mp front
    have number := @isNegativeNumber_iff rest (fun c member => known c (by simp [signed, member]))
    have taken : Taken text ↔ (isNegativeNumber text.toList || text.toList.contains ' ') = true := by
      rw [Taken, signed, Bool.or_eq_true, number, List.contains_iff_mem]
      simp [or_comm]
    rw [ofText_signed known signed some unmarked, signedWord, taken]
    constructor
    · intro value
      rw [if_pos value]
    · intro option
      rw [if_neg option]
  · exact ⟨fun _ => ofText_unsigned front, fun refused => absurd (Or.inl front) refused⟩

end Word

section Arguments
variable {stack : Stack} {source : String} {value : Int} {files : Files}

theorem calculate_signs (stack : Stack) : (∃ fault, calculate stack "-" Grammar.defaultLimit = .error fault) ∧
    ∃ fault, calculate stack "--" Grammar.defaultLimit = .error fault := by
  have one : Token.ofText "-" = .ok [⟨.minus, .text "-", ⟨1, 1⟩⟩] := by
    rw [Reader.ofText_reading]
    decide
  have two : Token.ofText "--" = .ok [⟨.minus, .text "-", ⟨1, 1⟩⟩, ⟨.minus, .text "-", ⟨1, 2⟩⟩] := by
    rw [Reader.ofText_reading]
    decide
  exact ⟨⟨_, calculate_unparsed one rfl⟩, _, calculate_unparsed two rfl⟩

theorem calculate_unsigned (valued : calculate stack source Grammar.defaultLimit = .ok value) :
    source ≠ "-" ∧ source ≠ "--" := by
  obtain ⟨⟨_, one⟩, _, two⟩ := calculate_signs stack
  constructor
  · rintro rfl
    cases valued.symm.trans one
  · rintro rfl
    cases valued.symm.trans two

theorem ofArguments_string {word : Word} (unmarked : source ≠ "--") (read : Word.ofText source = .ok word) :
    Word.ofArguments ["-s", source] = .ok [.option .string true none, word] := by
  have flag : Word.ofText "-s" = .ok (.option .string true none) := by decide
  have rest : Word.ofArguments [source] = .ok [word] := by
    rw [Word.ofArguments.eq_3 _ _ unmarked, read]
    rfl
  rw [Word.ofArguments.eq_3 _ _ (by decide), flag, rest]
  rfl

theorem read_value (unmarked : source ≠ "--") (read : Word.ofText source = .ok (.value source)) :
    Options.read ["-s", source] = .ok { Options.default with source := some source, isString := true } := by
  rw [Options.read, ofArguments_string unmarked read]
  rfl

theorem read_unknown (unmarked : source ≠ "--") (read : Word.ofText source = .ok (.unknown source)) :
    Options.read ["-s", source] = .error (.usage (.leftOver [source])) := by
  rw [Options.read, ofArguments_string unmarked read]
  rfl

theorem Command.runBatch_counted {display : Display} {limit : Int} {origin : Batch.Origin} {printed : Printout}
    {status : Nat} (counted : Batch.run stack display limit files origin = ⟨printed, .ok status⟩) :
    runBatch stack display limit files origin = ⟨printed, .ok (.exited status)⟩ := by
  rw [runBatch, counted, Run.attempt_bind]
  simp [Run.pure_eq]

theorem runBatch_text (valued : calculate stack source Grammar.defaultLimit = .ok value)
    (short : Text.Numeral.Short value) :
    Command.runBatch stack .plain Grammar.defaultLimit files (.text source) =
      ⟨⟨toString value ++ "\n", ""⟩, .ok (.exited 0)⟩ := by
  have reported : Report.run stack .plain Grammar.defaultLimit source =
      ⟨⟨toString value ++ "\n", ""⟩, .ok (calculate stack source Grammar.defaultLimit).isOk⟩ := by
    rw [Report.run_short (Report.fits_unwanted rfl) valued short, Report.forms_plain, valued]
    simp [Display.plain, Except.isOk, Except.toBool]
  have counted : Batch.reportAll stack .plain Grammar.defaultLimit [source] =
      ⟨⟨toString value ++ "\n", ""⟩, .ok 0⟩ := by
    rw [Batch.reportAll_cons reported]
    simp [Batch.reportAll, Run.pure_eq, Batch.failures, valued, Except.isOk, Except.toBool, Except.map]
  rw [Command.runBatch_counted (@Batch.run_counted stack .plain _ files (.text source) _ _ _ rfl counted)]
  simp [Batch.banner, Batch.tally, Display.plain]

/-- An expression given to the command is calculated unless it looks like an option; then it is refused before it has
been looked at. -/
theorem Command.run_inline (files : Files) (lines : List String)
    (valued : calculate stack source Grammar.defaultLimit = .ok value) (short : Text.Numeral.Short value) :
    (Word.Taken source → run stack files lines ["-s", source] = ⟨⟨toString value ++ "\n", ""⟩, .ok (.exited 0)⟩) ∧
    (¬ Word.Taken source → run stack files lines ["-s", source] =
      ⟨⟨"", usage ++ "arith: error: " ++ ("unrecognized arguments: " ++ source) ++ "\n"⟩, .ok (.exited 2)⟩) := by
  obtain ⟨some, unmarked⟩ := calculate_unsigned valued
  obtain ⟨taken, refused⟩ := Word.ofText_expression (calculate_lexical valued) some unmarked
  constructor
  · intro value
    rw [run, read_value unmarked (taken value)]
    exact runBatch_text valued short
  · intro option
    rw [run, read_unknown unmarked (refused option)]
    rfl

def negatedSum (sign four : Place) : Expr :=
  .binary .sum (.negative (.digit ⟨3, by decide⟩ ⟨1, 2⟩) ⟨1, 1⟩) (.digit ⟨4, by decide⟩ four) sign

theorem negatedSum_valued : calculate .ofCommand "-3 + 4" Grammar.defaultLimit = .ok 1 ∧
    calculate .ofCommand "-3+4" Grammar.defaultLimit = .ok 1 := by
  have spaced : Token.ofText "-3 + 4" = .ok [⟨.minus, .text "-", ⟨1, 1⟩⟩, ⟨.digit, .int 3, ⟨1, 2⟩⟩,
      ⟨.plus, .text "+", ⟨1, 4⟩⟩, ⟨.digit, .int 4, ⟨1, 6⟩⟩] := by
    rw [Reader.ofText_reading]
    decide
  have joined : Token.ofText "-3+4" = .ok [⟨.minus, .text "-", ⟨1, 1⟩⟩, ⟨.digit, .int 3, ⟨1, 2⟩⟩,
      ⟨.plus, .text "+", ⟨1, 3⟩⟩, ⟨.digit, .int 4, ⟨1, 4⟩⟩] := by
    rw [Reader.ofText_reading]
    decide
  have valued (sign four : Place) : (negatedSum sign four).evaluate = .ok 1 := by
    rw [Expr.evaluate, Expr.evaluateWith_value]
    rfl
  constructor
  · rw [@calculate_parsed .ofCommand _ _ _ (negatedSum ⟨1, 4⟩ ⟨1, 6⟩) spaced rfl, valued]
    rfl
  · rw [@calculate_parsed .ofCommand _ _ _ (negatedSum ⟨1, 3⟩ ⟨1, 4⟩) joined rfl, valued]
    rfl

theorem one_short : Text.Numeral.Short 1 :=
  @Text.Numeral.short_of_lt 1 1 (by decide) (by decide)

theorem Command.run_inline_spaced : calculate .ofCommand "-3 + 4" Grammar.defaultLimit = .ok 1 ∧ Text.Numeral.Short 1 ∧
    Word.Taken "-3 + 4" ∧ run .ofCommand (fun _ => .error .absent) [] ["-s", "-3 + 4"] =
      ⟨⟨"1\n", ""⟩, .ok (.exited 0)⟩ := by
  have taken : Word.Taken "-3 + 4" := Or.inr (Or.inl (by decide))
  have valued := negatedSum_valued.1
  have ran := (Command.run_inline (fun _ => .error .absent) [] valued one_short).1 taken
  exact ⟨valued, one_short, taken, ran⟩

/-- Without the spaces it is refused. -/
theorem Command.run_inline_joined : calculate .ofCommand "-3+4" Grammar.defaultLimit = .ok 1 ∧ Text.Numeral.Short 1 ∧
    run .ofCommand (fun _ => .error .absent) [] ["-s", "-3+4"] =
      ⟨⟨"", usage ++ "arith: error: unrecognized arguments: -3+4\n"⟩, .ok (.exited 2)⟩ := by
  refine ⟨negatedSum_valued.2, one_short, ?_⟩
  rw [run, read_unknown (by decide) (by decide)]
  rfl

end Arguments

end DigitCalc
