import DigitCalc.Proofs.OpenGroups
import DigitCalc.Proofs.Respelling

/-! Source has the fewest parentheses that its expression can be spelled with. Every spelling of an expression has the
tokens of the source, and besides them only groups: whatever can be left out of a spelling, source leaves out. So
source opens no level and no group that the spelling did not open, and it is read wherever the spelling was. -/
namespace DigitCalc

abbrev Lexeme := TokenKind × Datum

namespace Token

def lexeme (token : Token) : Lexeme :=
  (token.kind, token.value)

/-- What a token says once a symbol is given its own text. Tokens made by hand may carry anything there, and only the
kind of a symbol decides what it means. -/
def standard (token : Token) : Lexeme :=
  match Reader.symbols.find? (·.2 = token.kind) with
  | some (c, kind) => (kind, .text (String.singleton c))
  | none => token.lexeme

theorem standard_kind (token : Token) : token.standard.1 = token.kind := by
  unfold standard
  cases found : Reader.symbols.find? (·.2 = token.kind) with
  | none => rfl
  | some symbol => simpa using List.find?_some found

end Token

namespace Lexeme

def openMark : Lexeme := (.openParen, .text "(")

def closeMark : Lexeme := (.closeParen, .text ")")

def enclose (needed : Bool) (lexemes : List Lexeme) : List Lexeme :=
  if needed then openMark :: (lexemes ++ [closeMark]) else lexemes

/-- `Sheds few many`: the few are the many without some of their groups' parentheses. -/
inductive Sheds : List Lexeme → List Lexeme → Prop where
  | refl (lexemes : List Lexeme) : Sheds lexemes lexemes
  | trans {few some many : List Lexeme} (first : Sheds few some) (later : Sheds some many) : Sheds few many
  | append {few many fewer more : List Lexeme} (first : Sheds few many) (later : Sheds fewer more) :
      Sheds (few ++ fewer) (many ++ more)
  | unwrap {few many : List Lexeme} (inside : Sheds few many) : Sheds few (openMark :: (many ++ [closeMark]))

namespace Sheds

theorem enclosed {needed : Bool} {few many : List Lexeme} (sheds : Sheds (enclose needed few) many) :
    Sheds few many := by
  cases needed with
  | false => exact sheds
  | true => exact .trans (.unwrap (.refl few)) sheds

theorem wrap {few many : List Lexeme} (sheds : Sheds few many) (needed : Bool) :
    Sheds (enclose needed few) (openMark :: (many ++ [closeMark])) := by
  cases needed with
  | false => exact .unwrap sheds
  | true => exact .append (.refl [openMark]) (.append sheds (.refl [closeMark]))

theorem sublist {few many : List Lexeme} (sheds : Sheds few many) : few.Sublist many := by
  induction sheds with
  | refl lexemes => exact List.Sublist.refl lexemes
  | trans first later ih_first ih_later => exact ih_first.trans ih_later
  | append first later ih_first ih_later => exact ih_first.append ih_later
  | unwrap inside ih => exact (ih.trans (List.sublist_append_left _ _)).cons _

theorem kept {few many : List Lexeme} (sheds : Sheds few many) :
    few.filter (!Grammar.isParen ·.1) = many.filter (!Grammar.isParen ·.1) := by
  induction sheds with
  | refl lexemes => rfl
  | trans first later ih_first ih_later => exact ih_first.trans ih_later
  | append first later ih_first ih_later => rw [List.filter_append, List.filter_append, ih_first, ih_later]
  | @unwrap few many inside ih =>
      have outside : (openMark :: (many ++ [closeMark])).filter (!Grammar.isParen ·.1) =
          many.filter (!Grammar.isParen ·.1) := by
        simp [Grammar.isParen, openMark, closeMark]
      rw [outside, ih]

end Sheds

end Lexeme

namespace Grammar

theorem groupsLeft_succ {left right : Nat} {kinds : List TokenKind} (found : groupsLeft left kinds = some right) :
    groupsLeft (left + 1) kinds = some (right + 1) := by
  induction kinds generalizing left with
  | nil =>
      cases found
      rfl
  | cons kind rest ih =>
      rw [groupsLeft_cons] at found ⊢
      cases kind with
      | openParen =>
          cases left with
          | zero => cases found
          | succ left => exact ih found
      | _ => exact ih found

/-- Where groups are shed, as many groups are left to open as there were. -/
theorem sheds_left {few many : List Lexeme} (sheds : Lexeme.Sheds few many) (left right : Nat)
    (found : groupsLeft left (many.map Prod.fst) = some right) : groupsLeft left (few.map Prod.fst) = some right := by
  induction sheds generalizing left right with
  | refl => exact found
  | trans first later ih_first ih_later => exact ih_first left right (ih_later left right found)
  | append first later ih_first ih_later =>
      rw [List.map_append, groupsLeft_append, Option.bind_eq_some_iff] at found ⊢
      obtain ⟨middle, before, after⟩ := found
      exact ⟨middle, ih_first left middle before, ih_later middle right after⟩
  | unwrap inside ih =>
      rw [List.map_cons, List.map_append, groupsLeft_cons] at found
      cases left with
      | zero => cases found
      | succ left =>
          obtain ⟨middle, held, closed⟩ := Option.bind_eq_some_iff.mp ((groupsLeft_append _ _ _).symm.trans found)
          cases closed
          exact groupsLeft_succ (ih left middle held)

end Grammar

/-! The tokens of the source, by recursion. -/

namespace Operator

def tokenKind : Operator → TokenKind
  | .sum => .plus
  | .diff => .minus
  | .prod => .times
  | .div => .division

def lexeme (operator : Operator) : Lexeme :=
  (operator.tokenKind, .text operator.symbol)

end Operator

namespace Expr
open Lexeme

def lexemes : Expr → List Lexeme
  | .digit value _ => [(.digit, .int value)]
  | .negative operand _ => (.minus, .text "-") :: enclose (needsGroupNegated operand) operand.lexemes
  | .binary operator left right _ =>
      enclose (needsGroupLeft operator left) left.lexemes ++
        operator.lexeme :: enclose (needsGroupRight operator right) right.lexemes

theorem kind_alike {a b : Expr} (alike : a.alike b = true) : a.kind = b.kind := by
  cases a <;> cases b <;> simp_all [Expr.alike, kind]

theorem lexemes_alike (a b : Expr) (alike : a.alike b = true) : a.lexemes = b.lexemes := by
  induction a generalizing b with
  | digit value place =>
      cases b with
      | digit other there => rw [lexemes, lexemes, eq_of_beq alike]
      | _ => cases alike
  | negative operand place ih =>
      cases b with
      | negative other there =>
          have same : operand.kind = other.kind := kind_alike alike
          rw [lexemes, lexemes, ih other alike, needsGroupNegated, needsGroupNegated, same]
      | _ => cases alike
  | binary operator left right place ih_left ih_right =>
      cases b with
      | binary other first second there =>
          simp only [Expr.alike, Bool.and_eq_true, beq_iff_eq] at alike
          obtain ⟨⟨rfl, lefts⟩, rights⟩ := alike
          rw [lexemes, lexemes, ih_left first lefts, ih_right second rights, needsGroupLeft, needsGroupLeft,
            needsGroupRight, needsGroupRight, kind_alike lefts, kind_alike rights]
      | _ => cases alike

theorem wrap_lexemes {text : String} {lexemes : List Lexeme} (needed : Bool)
    (written : ∀ here, (Reader.tokensFrom here text.toList).map Token.lexeme = lexemes) (here : Coordinates) :
    (Reader.tokensFrom here (wrap needed text).toList).map Token.lexeme = enclose needed lexemes := by
  cases needed with
  | false => exact written here
  | true =>
      change (Reader.tokensFrom here ("(" ++ text ++ ")").toList).map Token.lexeme = _
      rw [String.toList_append, String.toList_append, Reader.tokensFrom_append, Reader.tokensFrom_append,
        List.map_append, List.map_append, written]
      rfl

theorem text_lexemes (tree : Expr) (here : Coordinates) :
    (Reader.tokensFrom here tree.text.toList).map Token.lexeme = tree.lexemes := by
  induction tree generalizing here with
  | digit value place =>
      rw [text, String.toList_singleton, Writes.digit_token]
      rfl
  | negative operand place ih =>
      rw [text, String.toList_append, Reader.tokensFrom_append, List.map_append, wrap_lexemes _ ih]
      rfl
  | binary operator left right place ih_left ih_right =>
      rw [text, String.toList_append, String.toList_append, Reader.tokensFrom_append, Reader.tokensFrom_append,
        List.map_append, List.map_append, wrap_lexemes _ ih_left, wrap_lexemes _ ih_right]
      cases operator <;> rfl

end Expr

/-! A spelling against the source of its tree. -/

def Expr.looserThan (tree : Expr) (level : Grammar.Level) : Bool :=
  tree.kind.level.precedence < level.precedence

/-- On this level, the source of the tree has the tokens that are given except for groups, and opens no more levels. -/
def Leaner (level : Grammar.Level) (tree : Expr) (spelling : List Lexeme) (nesting : Nat) : Prop :=
  Lexeme.Sheds (Lexeme.enclose (tree.looserThan level) tree.lexemes) spelling ∧
    (if tree.looserThan level then tree.nesting + 1 else tree.nesting) ≤ nesting

namespace Expr

theorem looserThan_expression (tree : Expr) : tree.looserThan .expression = false := by
  have bound : ∀ level : Grammar.Level, ¬ level.precedence < Grammar.Level.precedence .expression := by
    intro level
    cases level <;> decide
  exact decide_eq_false (bound _)

theorem needsGroupNegated_looser (operand : Expr) : needsGroupNegated operand = operand.looserThan .atom := by
  cases operand with
  | digit => rfl
  | negative => rfl
  | binary operator => cases operator <;> rfl

theorem needsGroupLeft_looser (operator : Operator) (operand : Expr) :
    needsGroupLeft operator operand = operand.looserThan operator.level := by
  cases operand with
  | digit => cases operator <;> rfl
  | negative => cases operator <;> rfl
  | binary inner => cases operator <;> cases inner <;> rfl

theorem needsGroupRight_looser (operator : Operator) (operand : Expr) :
    needsGroupRight operator operand = operand.looserThan operator.operandLevel := by
  cases operand with
  | digit => cases operator <;> rfl
  | negative => cases operator <;> rfl
  | binary inner => cases operator <;> cases inner <;> rfl

end Expr

namespace Grammar

section Standard
variable {token : Token}

theorem digit_standard {value : Fin 10} (kind : token.kind = .digit) (carried : token.value = .int value) :
    token.standard = (.digit, .int value) := by
  unfold Token.standard Token.lexeme
  rw [kind, carried]
  rfl

theorem symbol_standard {c : Char} {kind : TokenKind} (known : Reader.symbols.find? (·.2 = kind) = some (c, kind))
    (same : token.kind = kind) : token.standard = (kind, .text (String.singleton c)) := by
  unfold Token.standard
  rw [same, known]

theorem sign_standard {level inner : Level} {operator? : TokenKind → Option Operator} {operator : Operator}
    (layer : Layer level inner operator?) (known : operator? token.kind = some operator) :
    operator.level = level ∧ operator.operandLevel = inner ∧ token.standard = operator.lexeme := by
  cases layer <;> cases kind : token.kind <;> rw [kind] at known <;> cases known <;>
    exact ⟨rfl, rfl, (symbol_standard rfl kind).trans rfl⟩

theorem inner_tighter {level inner : Level} {operator? : TokenKind → Option Operator}
    (layer : Layer level inner operator?) : level.precedence ≤ inner.precedence := by
  cases layer <;> decide

end Standard

end Grammar

namespace Leaner
open Grammar Lexeme

variable {level target : Level} {tree : Expr} {spelling : List Lexeme} {nesting : Nat}

theorem loosen (leaner : Leaner level tree spelling nesting) (looser : target.precedence ≤ level.precedence) :
    Leaner target tree spelling nesting := by
  obtain ⟨sheds, fits⟩ := leaner
  cases needed : tree.looserThan target with
  | false =>
      refine ⟨?_, ?_⟩
      · rw [needed]
        exact sheds.enclosed
      · simp only [needed, Bool.false_eq_true, if_false]
        split at fits <;> omega
  | true =>
      have also : tree.looserThan level = true :=
        decide_eq_true (Nat.lt_of_lt_of_le (of_decide_eq_true needed) looser)
      rw [also] at sheds fits
      exact ⟨needed ▸ sheds, needed ▸ fits⟩

theorem group (leaner : Leaner .expression tree spelling nesting) :
    Leaner .atom tree (openMark :: (spelling ++ [closeMark])) (nesting + 1) := by
  obtain ⟨sheds, fits⟩ := leaner
  rw [tree.looserThan_expression] at sheds fits
  have inside : tree.nesting ≤ nesting := fits
  refine ⟨sheds.wrap _, ?_⟩
  split <;> omega

theorem negative {operand : Expr} (place : Place) (leaner : Leaner .atom operand spelling nesting) :
    Leaner .unary (.negative operand place) ((.minus, .text "-") :: spelling) (nesting + 1) := by
  obtain ⟨sheds, fits⟩ := leaner
  rw [← operand.needsGroupNegated_looser] at sheds fits
  refine ⟨.append (.refl [(.minus, .text "-")]) sheds, ?_⟩
  change Expr.nesting (.negative operand place) ≤ nesting + 1
  rw [Expr.nesting_negative]
  exact Nat.succ_le_succ fits

theorem binary {operator : Operator} {left right : Expr} {first last : List Lexeme} {m n : Nat} (place : Place)
    (lefts : Leaner operator.level left first m) (rights : Leaner operator.operandLevel right last n) :
    Leaner operator.level (.binary operator left right place) (first ++ operator.lexeme :: last) (max m n) := by
  obtain ⟨left_sheds, left_fits⟩ := lefts
  obtain ⟨right_sheds, right_fits⟩ := rights
  rw [← Expr.needsGroupLeft_looser] at left_sheds left_fits
  rw [← Expr.needsGroupRight_looser] at right_sheds right_fits
  have tight : (Expr.binary operator left right place).looserThan operator.level = false :=
    decide_eq_false (Nat.lt_irrefl _)
  refine ⟨?_, ?_⟩
  · rw [tight]
    exact .append left_sheds (.append (.refl [operator.lexeme]) right_sheds)
  · simp only [tight, Bool.false_eq_true, if_false, Expr.nesting]
    omega

theorem turns {inner : Level} {operator? : TokenKind → Option Operator} (layer : Layer level inner operator?)
    (turns : List Turn) (signs : ∀ turn ∈ turns, operator? turn.sign.kind = some turn.operator)
    (operands : ∀ turn ∈ turns, Leaner inner turn.tree (turn.tokens.map Token.standard) turn.nesting)
    (leaner : Leaner level tree spelling nesting) :
    Leaner level (Turn.fold tree turns) (spelling ++ (Turn.spelling turns).map Token.standard)
      (Turn.deepest nesting turns) := by
  induction turns generalizing tree spelling nesting with
  | nil => simpa [Turn.fold, Turn.spelling, Turn.deepest] using leaner
  | cons turn rest ih =>
      obtain ⟨sign, operator, tokens, operand, depth⟩ := turn
      obtain ⟨rfl, rfl, same⟩ := sign_standard layer (signs _ List.mem_cons_self)
      have longer := leaner.binary sign.place (operands _ List.mem_cons_self)
      have later := ih (fun turn member => signs turn (List.mem_cons_of_mem _ member))
        (fun turn member => operands turn (List.mem_cons_of_mem _ member)) longer
      have more : Turn.deepest nesting (⟨sign, operator, tokens, operand, depth⟩ :: rest) =
          Turn.deepest (max nesting depth) rest := rfl
      rw [Turn.spelling_cons, Turn.fold_cons, List.map_cons, List.map_append, same, more]
      simpa using later

end Leaner

namespace Grammar

/-- A spelling has the tokens of its tree's source, more groups perhaps, and no fewer levels. -/
theorem spells_leaner {level : Level} {tokens : List Token} {tree : Expr} {nesting : Nat}
    (spelled : Spells level tokens tree nesting) : Leaner level tree (tokens.map Token.standard) nesting := by
  induction spelled with
  | @digit token value kind carried =>
      rw [List.map_singleton, digit_standard kind carried]
      exact ⟨.refl _, Nat.le_refl _⟩
  | @group opening closing tokens _ _ opens inside closes ih =>
      have opened : opening.standard = Lexeme.openMark := (symbol_standard rfl opens).trans rfl
      have closed : closing.standard = Lexeme.closeMark := (symbol_standard rfl closes).trans rfl
      rw [List.map_cons, List.map_append, List.map_singleton, opened, closed]
      exact ih.group
  | plain operand ih => exact ih.loosen (by decide)
  | @negated sign _ _ _ minus operand ih =>
      have signed : sign.standard = (.minus, .text "-") := (symbol_standard rfl minus).trans rfl
      rw [List.map_cons, signed]
      exact ih.negative sign.place
  | chain layer first signs operands ih_first ih_operands =>
      rw [List.map_append]
      have first := ih_first.loosen (inner_tighter layer)
      exact first.turns layer _ signs ih_operands

end Grammar

namespace Expr
open Grammar

theorem source_tokens (tree : Expr) :
    ∃ printed again, Token.ofText tree.source = .ok printed ∧ printed.map Token.lexeme = tree.lexemes ∧
      Spells .expression printed again tree.nesting ∧ again.same tree = true := by
  have written := tree.text_writes.loosen .expression (by cases tree.kind.level <;> decide)
  obtain ⟨again, spelled, alike⟩ := written.2 .start
  refine ⟨_, again, ?_, tree.text_lexemes .start, spelled, alike_same alike⟩
  rw [source_text, Reader.ofText_reading, Reader.reading_known .start written.1]

theorem read_leaner {budget : Budget} {limit : Int} {tokens : List Token} {tree : Expr}
    (read : Expr.ofTokensWith budget limit tokens = .ok tree) :
    tree.nesting ≤ limit ∧ Lexeme.Sheds tree.lexemes (tokens.map Token.standard) := by
  obtain ⟨_, _, nesting, spelled, fits⟩ := ofTokensWith_ok read
  obtain ⟨sheds, lower⟩ := spells_leaner spelled
  rw [tree.looserThan_expression] at sheds lower
  have levels : tree.nesting ≤ nesting := lower
  exact ⟨by omega, sheds⟩

theorem source_read {budget : Budget} (sixes : WholeGroups budget) {limit : Int} {tokens printed : List Token}
    {tree again : Expr} (read : Expr.ofTokensWith budget limit tokens = .ok tree)
    (lexemes : printed.map Token.lexeme = tree.lexemes) (spelled : Spells .expression printed again tree.nesting) :
    Expr.ofTokensWith budget limit printed = .ok again := by
  obtain ⟨positive, uncounted, _⟩ := ofTokensWith_ok read
  obtain ⟨fits, sheds⟩ := read_leaner read
  have lower : NoHigher printed tokens := by
    intro groups found
    obtain ⟨left, opened⟩ := Option.isSome_iff_exists.mp found
    have kinds : tokens.map Token.kind = (tokens.map Token.standard).map Prod.fst := by
      simp [Token.standard_kind]
    have printed_kinds : printed.map Token.kind = tree.lexemes.map Prod.fst := by
      rw [← lexemes, List.map_map]
      rfl
    rw [kinds] at opened
    rw [printed_kinds, sheds_left sheds groups left opened]
    rfl
  have covers : Covers tokens [] (whole limit .unbounded tokens) := by
    rw [uncounted]
    rfl
  exact ofTokensWith_noHigher sixes positive (List.append_nil tokens).symm covers (by simp [uncounted])
    (by simp [read]) ⟨_, spelled, fits⟩ lower

theorem ofText_standard {source : String} {tokens : List Token} (read : Token.ofText source = .ok tokens) :
    tokens.map Token.standard = tokens.map Token.lexeme := by
  apply List.map_congr_left
  intro token member
  obtain ⟨_, c, _, _, signifies, _⟩ := Reader.tokensFrom_signified ((Reader.ofText_ok read).2 ▸ member)
  obtain ⟨kind, value, place⟩ := token
  cases signifies <;> rfl

/-- The tokens of the source are those of any spelling without some of its parentheses, each symbol with its own text;
in a text every symbol has that already. They are read where the spelling was, and give the expression back, and no
spelling of it has fewer tokens. -/
theorem source_leanest (budget : Budget) (limit : Int) (tokens : List Token) (tree : Expr)
    (sixes : WholeGroups budget) (read : Expr.ofTokensWith budget limit tokens = .ok tree) :
    ∃ printed, Token.ofText tree.source = .ok printed ∧
      (printed.map Token.lexeme).Sublist (tokens.map Token.standard) ∧
      (printed.map Token.lexeme).filter (!isParen ·.1) = (tokens.map Token.standard).filter (!isParen ·.1) ∧
      (∀ source, Token.ofText source = .ok tokens → tokens.map Token.standard = tokens.map Token.lexeme) ∧
      (∃ again, Expr.ofTokensWith budget limit printed = .ok again ∧ again.same tree = true) ∧
      ∀ other stack bound found, Expr.ofTokensWith stack bound other = .ok found → found.same tree = true →
        printed.length ≤ other.length := by
  obtain ⟨printed, again, text, lexemes, spelled, same⟩ := tree.source_tokens
  have sheds := (read_leaner read).2
  rw [← lexemes] at sheds
  refine ⟨printed, text, sheds.sublist, sheds.kept, fun source => ofText_standard, ?_, ?_⟩
  · exact ⟨again, source_read sixes read lexemes spelled, same⟩
  · intro other stack bound found other_read alike
    have shorter := (read_leaner other_read).2.sublist.length_le
    rw [lexemes_alike found tree (same_alike alike), ← lexemes, List.length_map, List.length_map] at shorter
    exact shorter

def negatedDigit : List Token :=
  [⟨.minus, .text "-", ⟨1, 1⟩⟩, ⟨.openParen, .text "(", ⟨1, 2⟩⟩, ⟨.openParen, .text "(", ⟨1, 3⟩⟩,
    ⟨.digit, .int 1, ⟨1, 4⟩⟩, ⟨.closeParen, .text ")", ⟨1, 5⟩⟩, ⟨.closeParen, .text ")", ⟨1, 6⟩⟩]

theorem source_leanest_negatedDigit : WholeGroups (.ofStack .ofCommand) ∧
    Expr.ofTokensWith (.ofStack .ofCommand) 3 negatedDigit = .ok (.negative (.digit 1 ⟨1, 4⟩) ⟨1, 1⟩) ∧
    ∃ printed, Token.ofText (negative (.digit 1 ⟨1, 4⟩) ⟨1, 1⟩).source = .ok printed ∧
      (printed.map Token.lexeme).Sublist (negatedDigit.map Token.standard) ∧
      ∀ other stack bound found, Expr.ofTokensWith stack bound other = .ok found →
        found.same (.negative (.digit 1 ⟨1, 4⟩) ⟨1, 1⟩) = true → printed.length ≤ other.length := by
  have read : Expr.ofTokensWith (.ofStack .ofCommand) 3 negatedDigit = .ok (.negative (.digit 1 ⟨1, 4⟩) ⟨1, 1⟩) := rfl
  obtain ⟨printed, text, sublist, _, _, _, least⟩ :=
    source_leanest (.ofStack .ofCommand) 3 negatedDigit _ (ofStack_wholeGroups .ofCommand) read
  exact ⟨ofStack_wholeGroups .ofCommand, read, printed, text, sublist, least⟩

/-- The sum of one and two, made by hand with an odd text for the sign. -/
def mislabelledSum : List Token :=
  [⟨.digit, .int 1, ⟨0, 0⟩⟩, ⟨.plus, .text "foo", ⟨0, 0⟩⟩, ⟨.digit, .int 2, ⟨0, 0⟩⟩]

/-- Expressions keep no texts of symbols, so an odd one cannot come back. -/
theorem mislabelledSum_respelled :
    Expr.ofTokens .ofCommand defaultLimit mislabelledSum =
      .ok (.binary .sum (.digit 1 ⟨0, 0⟩) (.digit 2 ⟨0, 0⟩) ⟨0, 0⟩) ∧
    Token.ofText (binary .sum (.digit 1 ⟨0, 0⟩) (.digit 2 ⟨0, 0⟩) ⟨0, 0⟩).source =
      .ok [⟨.digit, .int 1, ⟨1, 1⟩⟩, ⟨.plus, .text "+", ⟨1, 3⟩⟩, ⟨.digit, .int 2, ⟨1, 5⟩⟩] ∧
    ¬ List.Sublist [(.digit, .int 1), (.plus, .text "+"), (.digit, .int 2)] (mislabelledSum.map Token.lexeme) := by
  have known : ∀ c ∈ "1 + 2".toList, c ∈ Reader.alphabet := Reader.alphabet_of_all (by decide)
  have written : text (.binary .sum (.digit 1 ⟨0, 0⟩) (.digit 2 ⟨0, 0⟩) ⟨0, 0⟩) = "1 + 2" := rfl
  refine ⟨rfl, ?_, by decide⟩
  rw [source_text, written, Reader.ofText_reading, Reader.reading_known .start known]
  decide

end Expr

end DigitCalc
