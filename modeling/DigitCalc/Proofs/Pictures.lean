import DigitCalc.Proofs.Caret

/-! The picture under a diagnostic, where line breaks are ordinary: every carriage return before the culprit belongs to
a line feed that also stands before it, and the culprit does not end a line itself. Then the line that is shown goes on
past the culprit, so the picture is always drawn, and the diagnostic is three lines: its header, the line of the
culprit, and a caret below the culprit. -/
namespace DigitCalc

namespace Expr

/-- The node at which evaluation fails: the first one that divides by zero, operands coming before their node and left
operands before right ones. -/
def FailsFirstAt (tree node : Expr) : Prop :=
  ∃ earlier later, tree.postorder = earlier ++ node :: later ∧ node.dividesByZero ∧
    ∀ other ∈ earlier, ¬ other.dividesByZero

theorem refusal?_eq_none_iff (node : Expr) : refusal? (fun _ => true) node = none ↔ ¬ node.dividesByZero := by
  rw [← Option.not_isSome_iff_eq_none, Option.isSome_iff_exists, not_iff_not]
  constructor
  · rintro ⟨fault, refused⟩
    exact ((refusal?_eq_some_iff node fault).mp refused).1
  · intro divides
    exact ⟨_, (refusal?_eq_some_iff node _).mpr ⟨divides, rfl⟩⟩

/-- Evaluation fails for the first division by zero and for no other. -/
theorem evaluate_error_iff (tree : Expr) (fault : EvalFault) :
    tree.evaluate = .error fault ↔ ∃ node, tree.FailsFirstAt node ∧ fault = .divisionByZero node.place := by
  have first := @value_first (fun _ => true) tree
  have failing : tree.evaluate = .error fault ↔ tree.postorder.findSome? (refusal? fun _ => true) = some fault := by
    rw [first, evaluate, evaluateWith_value]
    cases tree.value fun _ => true <;> simp
  rw [failing, List.findSome?_eq_some_iff]
  constructor
  · rintro ⟨earlier, node, later, split, refused, none⟩
    obtain ⟨divides, same⟩ := (refusal?_eq_some_iff node fault).mp refused
    have undivided := fun other member => (refusal?_eq_none_iff other).mp (none other member)
    exact ⟨node, ⟨earlier, later, split, divides, undivided⟩, same⟩
  · rintro ⟨node, ⟨earlier, later, split, divides, none⟩, same⟩
    exact ⟨earlier, node, later, split, (refusal?_eq_some_iff node fault).mpr ⟨divides, same⟩,
      fun other member => (refusal?_eq_none_iff other).mpr (none other member)⟩

end Expr

theorem calculate_divided {stack : Stack} {source : String} {limit : Int} {tokens : List Token} {tree node : Expr}
    (read : Token.ofText source = .ok tokens) (parsed : Expr.ofTokens stack limit tokens = .ok tree)
    (fails : tree.FailsFirstAt node) :
    calculate stack source limit = .error (.evaluation (.divisionByZero node.place)) := by
  rw [calculate_parsed read parsed, (tree.evaluate_error_iff _).mpr ⟨node, fails, rfl⟩]
  rfl

/-- The character for which a calculation fails, between those before it and those after it: the first one outside the
alphabet, or else the sign of the division at which evaluation fails. -/
inductive Offends (stack : Stack) (source : String) (limit : Int) : List Char → Char → List Char → Prop where
  | foreign {before after : List Char} {c : Char} (split : source.toList = before ++ c :: after)
      (known : ∀ d ∈ before, d ∈ Reader.alphabet) (outside : c ∉ Reader.alphabet) :
        Offends stack source limit before c after
  | division {before after : List Char} {tokens : List Token} {tree node : Expr}
      (split : source.toList = before ++ '/' :: after) (read : Token.ofText source = .ok tokens)
      (parsed : Expr.ofTokens stack limit tokens = .ok tree) (fails : tree.FailsFirstAt node)
      (sign : node.place = placeAfter before) : Offends stack source limit before '/' after

namespace Offends
variable {stack : Stack} {source : String} {limit : Int} {before after : List Char} {c : Char}

theorem split (offends : Offends stack source limit before c after) : source.toList = before ++ c :: after := by
  cases offends with
  | foreign split => exact split
  | division split => exact split

theorem known (offends : Offends stack source limit before c after) : ∀ d ∈ before, d ∈ Reader.alphabet := by
  cases offends with
  | foreign _ known => exact known
  | division split read =>
      intro d member
      exact (Reader.ofText_ok read).1 d (by simp [split, member])

theorem fails (offends : Offends stack source limit before c after) :
    ∃ failure, calculate stack source limit = .error failure ∧ Culprit source failure before c := by
  cases offends with
  | foreign split known outside =>
      have refused : Token.ofText source = .error ⟨c, placeAfter before⟩ := by
        rw [Reader.ofText_reading, split, Reader.reading_stopped .start known outside, fold_place]
      exact ⟨_, calculate_unread refused, .foreign split⟩
  | division split read parsed first sign =>
      refine ⟨_, calculate_divided read parsed first, ?_⟩
      rw [sign]
      exact .division split

theorem unique {other rest : List Char} {d : Char} (offends : Offends stack source limit before c after)
    (again : Offends stack source limit other d rest) : other = before ∧ d = c ∧ rest = after := by
  obtain ⟨failure, failed, culprit⟩ := offends.fails
  obtain ⟨_, refailed, accused⟩ := again.fails
  cases failed.symm.trans refailed
  have places : placeAfter other = placeAfter before := by
    cases culprit with
    | foreign =>
        generalize placeAfter before = place at accused
        cases accused
        rfl
    | division =>
        generalize placeAfter before = place at accused
        cases accused
        rfl
  have text := again.split.symm.trans offends.split
  have same := placeAfter_injective text places
  subst same
  simpa using text

end Offends

theorem calculate_offends {stack : Stack} {source : String} {limit : Int} {failure : Failure} {diagnostic : Diagnostic}
    (failed : calculate stack source limit = .error failure) (reported : failure.diagnostic? = some diagnostic)
    (columned : diagnostic.origin ≠ .parser) : ∃ before c after, Offends stack source limit before c after := by
  rcases calculate_failed failed with ⟨fault, stopped, rfl⟩ | ⟨_, fault, _, _, rfl⟩ |
    ⟨tokens, tree, fault, read, parsed, refused, rfl⟩
  · obtain ⟨before, c, after, split, known, outside, _⟩ := Reader.ofText_refused (Reader.ofText_error stopped)
    exact ⟨before, c, after, .foreign split known outside⟩
  · cases fault with
    | grammar fault =>
        cases reported
        exact absurd rfl columned
    | _ => cases reported
  · obtain ⟨before, culprit, _⟩ := divided_culprit read parsed refused
    obtain ⟨node, first, same⟩ := (tree.evaluate_error_iff fault).mp refused
    subst same
    obtain ⟨after, split⟩ := culprit.split
    have sign : node.place = placeAfter before := by
      generalize node.place = place at culprit
      cases culprit
      rfl
    exact ⟨before, '/', after, .division split read parsed first sign⟩

namespace Text

namespace Line

theorem returnsFed_own {earlier own : List Char} (fed : ReturnsFed (earlier ++ own)) (unfed : '\n' ∉ own) :
    '\r' ∉ own := by
  intro member
  obtain ⟨first, last, rfl⟩ := List.append_of_mem member
  have next := fed (earlier ++ first) last (List.append_assoc _ _ _).symm
  exact unfed (List.mem_append_right first (List.mem_cons_of_mem _ (List.mem_of_head? next)))

def Unbroken (chars : List Char) : Prop :=
  ∀ c ∈ chars, isBoundary c = false

theorem unbroken_of_all {chars : List Char} (all : chars.all (!isBoundary ·) = true) : Unbroken chars := by
  simpa [Unbroken] using all

theorem unbroken_append {first last : List Char} (one : Unbroken first) (two : Unbroken last) :
    Unbroken (first ++ last) :=
  List.forall_mem_append.mpr ⟨one, two⟩

theorem unbroken_past {c : Char} {after : List Char} (inside : isBoundary c = false) :
    Unbroken (c :: after.takeWhile (!isBoundary ·)) := by
  have later : ∀ d ∈ after.takeWhile (!isBoundary ·), isBoundary d = false := by
    intro d member
    simpa using List.mem_takeWhile_imp member
  exact List.forall_mem_cons.mpr ⟨inside, later⟩

theorem split_last {line : List Char} (unbroken : Unbroken line) (some : line ≠ []) :
    split isBoundary line = [line] := by
  induction line with
  | nil => exact absurd rfl some
  | cons c line ih =>
      obtain ⟨inside, later⟩ := List.forall_mem_cons.mp unbroken
      cases line with
      | nil => simp [split, inside]
      | cons d line =>
          have lone : c = '\r' → (d :: line).head? ≠ Option.some '\n' := by
            rintro rfl
            cases inside
          rw [split_char lone, inside, ih later (List.cons_ne_nil _ _)]
          rfl

theorem shown_three {first second third : String} (one : Unbroken first.toList) (two : Unbroken second.toList)
    (three : Unbroken third.toList) (some : third ≠ "") :
    shown ("\n".intercalate [first, second, third]) = [first, second, third] := by
  have joined : ("\n".intercalate [first, second, third]).toList =
      first.toList ++ '\n' :: (second.toList ++ '\n' :: third.toList) := by
    change (first ++ "\n" ++ second ++ "\n" ++ third).toList = _
    simp
  have last : third.toList ≠ [] := by simpa using some
  rw [shown, joined, split_line rfl rfl one, split_line rfl rfl two, split_last three last]
  simp

theorem unbroken_digits : ∀ value : Fin 10, isBoundary (Nat.digitChar value) = false := by decide

theorem unbroken_natural (n : Nat) : Unbroken (toString (n : Int)).toList := by
  intro c member
  have digits : (toString (n : Int)).toList = Nat.toDigits 10 n := String.toList_ofList
  rw [digits] at member
  have digit := Nat.isDigit_of_mem_toDigits (by omega) (by omega) member
  simp only [Char.isDigit, Bool.and_eq_true, decide_eq_true_eq] at digit
  obtain ⟨value, rfl, _⟩ := Reader.digitChar_range digit.1 digit.2
  exact unbroken_digits value

end Line

namespace Quoted
open Line

theorem hexDigit_inside {n : Nat} (small : n < 16) : isBoundary (hexDigit n) = false := by
  have digits : ∀ n : Fin 16, isBoundary (hexDigit n) = false := by decide
  exact digits ⟨n, small⟩

theorem hex_unbroken (width n : Nat) : Unbroken (hex width n) := by
  induction width generalizing n with
  | zero => simp [hex, Unbroken]
  | succ width ih =>
      apply unbroken_append (ih (n / 16))
      simpa [Unbroken] using hexDigit_inside (Nat.mod_lt n (by omega))

theorem numbered_unbroken (n : Nat) : Unbroken (numbered n) := by
  have marks : ∀ c ∈ ['\\', 'x', 'u', 'U'], isBoundary c = false := @unbroken_of_all ['\\', 'x', 'u', 'U'] (by decide)
  unfold numbered
  split
  · simpa [Unbroken, marks] using hex_unbroken 2 n
  · split
    · simpa [Unbroken, marks] using hex_unbroken 4 n
    · simpa [Unbroken, marks] using hex_unbroken 8 n

theorem escape_unbroken {c : Char} (delimiter : Char) (inside : isBoundary c = false) :
    Unbroken (escape delimiter c) := by
  have marks : ∀ c ∈ ['\\', 'n', 'r', 't'], isBoundary c = false := @unbroken_of_all ['\\', 'n', 'r', 't'] (by decide)
  unfold escape
  split_ifs
  · simp [Unbroken, marks, inside]
  · simp [Unbroken, marks]
  · simp [Unbroken, marks]
  · simp [Unbroken, marks]
  · exact numbered_unbroken c.toNat
  · simpa [Unbroken] using inside

theorem quote_unbroken {text : String} (unbroken : Unbroken text.toList) : Unbroken (quote text).toList := by
  have marks : isBoundary (delimiter text.toList) = false := by
    unfold delimiter
    split <;> decide
  rw [quote, String.toList_ofList]
  intro c member
  simp only [List.mem_append, List.mem_cons, List.mem_flatMap, List.not_mem_nil, or_false] at member
  rcases member with (rfl | ⟨d, among, escaped⟩) | rfl
  · exact marks
  · exact escape_unbroken _ (unbroken d among) c escaped
  · exact marks

end Quoted

end Text

theorem own_unbroken {earlier own : List Char} (known : ∀ c ∈ earlier ++ own, c ∈ Reader.alphabet)
    (unfed : '\n' ∉ own) (fed : Text.Line.ReturnsFed (earlier ++ own)) : Text.Line.Unbroken own := by
  intro c member
  by_contra ended
  rcases alphabet_breaks (known c (List.mem_append_right earlier member)) (by simpa using ended) with rfl | rfl
  · exact unfed member
  · exact Text.Line.returnsFed_own fed unfed member

namespace Diagnostic
variable {diagnostic : Diagnostic} {source line : String} {before after : List Char} {c : Char}

/-- The line shown for a place goes on behind it, unless the character there ends a line. -/
theorem shownLine_past {earlier own : List Char} (split : source.toList = earlier ++ own ++ c :: after)
    (whole : Text.Line.Whole Text.Line.isBoundary earlier) (unbroken : Text.Line.Unbroken own)
    (inside : Text.Line.isBoundary c = false) :
    shownLine? source (some (1 + earlier.count '\n')) =
      some (String.ofList (own ++ c :: after.takeWhile (!Text.Line.isBoundary ·))) := by
  have passed : ∀ d ∈ own, (!Text.Line.isBoundary d) = true := by
    intro d member
    rw [unbroken d member]
    rfl
  rw [List.append_assoc] at split
  rw [shownLine_whole split whole (by simp), List.takeWhile_append_of_pos passed, List.takeWhile_cons_of_pos]
  rw [inside]
  rfl

theorem shown?_inside {column : Int} (columned : diagnostic.origin ≠ .parser)
    (position : diagnostic.position = some column) (shown : shownLine? source diagnostic.line = some line)
    (within : column ≤ line.length) : diagnostic.shown? source = some (line, column) := by
  unfold shown?
  rw [position, shown]
  cases origin : diagnostic.origin with
  | parser => exact absurd origin columned
  | _ => exact if_pos within

theorem header_unbroken {column : Nat} (message : Text.Line.Unbroken diagnostic.message.toList)
    (position : diagnostic.position = some (column : Int)) : Text.Line.Unbroken diagnostic.header.toList := by
  have names : ∀ origin : Origin, Text.Line.Unbroken origin.name.toList := by
    intro origin
    apply Text.Line.unbroken_of_all
    cases origin <;> decide
  have marks : ∀ mark ∈ [": ", " (at position ", ")"], Text.Line.Unbroken mark.toList := by
    intro mark member
    apply Text.Line.unbroken_of_all
    have all : [": ", " (at position ", ")"].all (·.toList.all (!Text.Line.isBoundary ·)) = true := by decide
    exact List.all_eq_true.mp all mark member
  have text : diagnostic.text = diagnostic.message ++ " (at position " ++ toString (column : Int) ++ ")" := by
    rw [Diagnostic.text, position]
  rw [header, text]
  simp only [String.toList_append]
  apply Text.Line.unbroken_append (Text.Line.unbroken_append (names _) (marks _ (by simp)))
  apply Text.Line.unbroken_append _ (marks _ (by simp))
  apply Text.Line.unbroken_append _ (Text.Line.unbroken_natural column)
  exact Text.Line.unbroken_append message (marks _ (by simp))

theorem underlined_lines (top line : String) (width : Nat) :
    top ++ underlined line (1 + width) =
      "\n".intercalate [top, "  " ++ line, "  " ++ String.ofList (List.replicate width ' ') ++ "^"] := by
  have blanks : ((1 : Int) + width - 1).toNat = width := by omega
  change _ = top ++ "\n" ++ ("  " ++ line) ++ "\n" ++ ("  " ++ String.ofList (List.replicate width ' ') ++ "^")
  rw [underlined, blanks, ← String.toList_inj]
  simp

theorem render_past {earlier own : List Char} (split : source.toList = earlier ++ own ++ c :: after)
    (whole : Text.Line.Whole Text.Line.isBoundary earlier) (unbroken : Text.Line.Unbroken own)
    (inside : Text.Line.isBoundary c = false) (columned : diagnostic.origin ≠ .parser)
    (position : diagnostic.position = some (1 + (own.length : Int)))
    (numbered : diagnostic.line = some (1 + (earlier.count '\n' : Int))) :
    diagnostic.render source = "\n".intercalate
      [diagnostic.header, "  " ++ String.ofList (own ++ c :: after.takeWhile (!Text.Line.isBoundary ·)),
        "  " ++ String.ofList (List.replicate own.length ' ') ++ "^"] := by
  have shown := shownLine_past split whole unbroken inside
  rw [← numbered] at shown
  have within : 1 + (own.length : Int) ≤
      (String.ofList (own ++ c :: after.takeWhile (!Text.Line.isBoundary ·))).length := by
    simp
    omega
  rw [render, picture, shown?_inside columned position shown within]
  exact underlined_lines _ _ _

theorem shown_lines {top line : String} (width : Nat) (one : Text.Line.Unbroken top.toList)
    (two : Text.Line.Unbroken line.toList) :
    Text.Line.shown ("\n".intercalate [top, "  " ++ line, "  " ++ String.ofList (List.replicate width ' ') ++ "^"]) =
      [top, "  " ++ line, "  " ++ String.ofList (List.replicate width ' ') ++ "^"] := by
  have blanks : ∀ width, Text.Line.Unbroken (String.ofList (List.replicate width ' ')).toList := by
    intro width c member
    rw [String.toList_ofList] at member
    rw [List.eq_of_mem_replicate member]
    decide
  apply Text.Line.shown_three one
  · rw [String.toList_append]
    exact Text.Line.unbroken_append (blanks 2) two
  · simp only [String.toList_append]
    apply Text.Line.unbroken_append (Text.Line.unbroken_append (blanks 2) (blanks width))
    simpa [Text.Line.Unbroken] using (by decide : Text.Line.isBoundary '^' = false)
  · simp

end Diagnostic

theorem Culprit.unbroken {source : String} {failure : Failure} {before : List Char} {c : Char} {diagnostic : Diagnostic}
    (culprit : Culprit source failure before c) (reported : failure.diagnostic? = some diagnostic)
    (inside : Text.Line.isBoundary c = false) : Text.Line.Unbroken diagnostic.message.toList := by
  cases culprit with
  | foreign =>
      cases reported
      have quoted : Text.Line.Unbroken (Text.Quoted.quote (String.singleton c)).toList := by
        apply Text.Quoted.quote_unbroken
        simpa [Text.Line.Unbroken] using inside
      have start : Text.Line.Unbroken "unrecognized character ".toList := Text.Line.unbroken_of_all (by decide)
      simp only [Diagnostic.unrecognized, String.toList_append]
      exact Text.Line.unbroken_append start quoted
  | division =>
      cases reported
      exact @Text.Line.unbroken_of_all "division by zero".toList (by decide)

/-- A calculation that fails with a column fails for a character. If each carriage return before that character belongs
to a line feed before it, and the character ends no line itself, then the diagnostic is three lines: the header; the
line of the character, from its start past the character up to its end; and a caret in the column of the character. -/
theorem calculate_caret_drawn (stack : Stack) (source : String) (limit : Int) (failure : Failure)
    (diagnostic : Diagnostic)
    (failed : calculate stack source limit = .error failure) (reported : failure.diagnostic? = some diagnostic)
    (columned : diagnostic.origin ≠ .parser) : diagnostic.draw? source = some (diagnostic.render source) ∧
    ∃ before c after, Offends stack source limit before c after ∧
      (∀ other d rest, Offends stack source limit other d rest → other = before ∧ d = c ∧ rest = after) ∧
      (Text.Line.ReturnsFed before → Text.Line.isBoundary c = false →
        ∃ earlier own line lines, before = earlier ++ own ∧ (earlier = [] ∨ ∃ chars, earlier = chars ++ ['\n']) ∧
          '\n' ∉ own ∧ own ++ [c] <+: line.toList ∧
          lines = [diagnostic.header, "  " ++ line, "  " ++ String.ofList (List.replicate own.length ' ') ++ "^"] ∧
          diagnostic.render source = "\n".intercalate lines ∧ Text.Line.shown (diagnostic.render source) = lines) := by
  obtain ⟨before, c, after, offends⟩ := calculate_offends failed reported columned
  refine ⟨calculate_drawable failed reported, before, c, after, offends, fun _ _ _ again => offends.unique again, ?_⟩
  intro fed inside
  have known := offends.known
  obtain ⟨failing, again, culprit⟩ := offends.fails
  cases failed.symm.trans again
  obtain ⟨position, numbered⟩ := culprit.reported reported
  obtain ⟨earlier, own, rfl, starts, place⟩ := placeAfter_line before
  have unfed : '\n' ∉ own := by
    have lines := congrArg Place.line place
    simp only [placeAfter, List.count_append] at lines
    exact List.count_eq_zero.mp (by omega)
  have unbroken := own_unbroken known unfed fed
  have whole := earlier_whole (fun d member => known d (List.mem_append_left own member)) starts
    (Text.Line.returnsPaired_prefix own (Text.Line.returnsFed_paired fed))
  rw [place] at position numbered
  have rendered := Diagnostic.render_past offends.split whole unbroken inside columned position numbered
  have header := Diagnostic.header_unbroken (culprit.unbroken reported inside) (position.trans (by push_cast; rfl))
  refine ⟨earlier, own, _, _, rfl, starts, unfed, by simp, rfl, rendered, ?_⟩
  rw [rendered]
  apply Diagnostic.shown_lines _ header
  rw [String.toList_ofList]
  exact Text.Line.unbroken_append unbroken (Text.Line.unbroken_past inside)

def zeroBelow : String := "1\r\n-2/0"

def quotientBelow : Expr :=
  .binary .div (.digit ⟨2, by decide⟩ ⟨2, 2⟩) (.digit ⟨0, by decide⟩ ⟨2, 4⟩) ⟨2, 3⟩

theorem zeroBelow_offends : Offends .ofCommand zeroBelow 100 "1\r\n-2".toList '/' ['0'] ∧
    calculate .ofCommand zeroBelow 100 = .error (.evaluation (.divisionByZero ⟨2, 3⟩)) := by
  have read : Token.ofText zeroBelow = .ok [⟨.digit, .int 1, ⟨1, 1⟩⟩, ⟨.minus, .text "-", ⟨2, 1⟩⟩,
      ⟨.digit, .int 2, ⟨2, 2⟩⟩, ⟨.division, .text "/", ⟨2, 3⟩⟩, ⟨.digit, .int 0, ⟨2, 4⟩⟩] := by
    rw [Reader.ofText_reading]
    decide
  have zero : (Expr.digit 0 ⟨2, 4⟩).evaluate = .ok 0 := by
    rw [Expr.evaluate, Expr.evaluateWith_value]
    rfl
  have fails : (Expr.binary .diff (.digit 1 ⟨1, 1⟩) quotientBelow ⟨2, 1⟩).FailsFirstAt quotientBelow := by
    refine ⟨[.digit 1 ⟨1, 1⟩, .digit 2 ⟨2, 2⟩, .digit 0 ⟨2, 4⟩], _, rfl, zero, ?_⟩
    simp [Expr.dividesByZero]
  exact ⟨.division (by decide) read rfl fails rfl, calculate_divided read rfl fails⟩

theorem zeroBelow_fed : Text.Line.ReturnsFed "1\r\n-2".toList := by
  decide

theorem calculate_caret_drawn_zeroBelow :
    calculate .ofCommand zeroBelow 100 = .error (.evaluation (.divisionByZero ⟨2, 3⟩)) ∧
    (Failure.evaluation (.divisionByZero ⟨2, 3⟩)).diagnostic? =
      some ⟨.evaluation, "division by zero", some 3, some 2⟩ ∧
    Offends .ofCommand zeroBelow 100 "1\r\n-2".toList '/' ['0'] ∧ Text.Line.ReturnsFed "1\r\n-2".toList ∧
    Text.Line.isBoundary '/' = false ∧
    ∃ own line, '\n' ∉ own ∧ own ++ ['/'] <+: line.toList ∧
      Text.Line.shown (Diagnostic.render ⟨.evaluation, "division by zero", some 3, some 2⟩ zeroBelow) =
        ["EvalError: division by zero (at position 3)", "  " ++ line,
          "  " ++ String.ofList (List.replicate own.length ' ') ++ "^"] := by
  obtain ⟨offends, failed⟩ := zeroBelow_offends
  have slash : Text.Line.isBoundary '/' = false := by decide
  obtain ⟨_, before, c, after, _, only, drawn⟩ := calculate_caret_drawn .ofCommand zeroBelow 100 _ _ failed rfl nofun
  obtain ⟨rfl, rfl, rfl⟩ := only _ _ _ offends
  obtain ⟨_, own, line, _, _, _, unfed, starts, rfl, _, shown⟩ := drawn zeroBelow_fed slash
  exact ⟨failed, rfl, offends, zeroBelow_fed, slash, own, line, unfed, starts, shown⟩

end DigitCalc
