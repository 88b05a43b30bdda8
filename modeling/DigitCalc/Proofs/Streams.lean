import DigitCalc.InputLine
import DigitCalc.Proofs.Lines
import DigitCalc.Text.Stream
import Mathlib.Data.List.Forall2

/-! Lines that are read one at a time, against a text that is cut as a whole. Where all three newline spellings end a
line the lines are the same. Where only a line feed does, a carriage return before it stays on its line and is taken off
with the white space around it; any other one keeps two lines together. -/
namespace DigitCalc

namespace Text.Stream
variable {ends : LineEnds} {c : Char} {line rest later chars : List Char}

theorem read_nil : read ends [] = [] := by
  rw [read]

theorem read_ended (passed : ends.pass? (c :: rest) = some later) : read ends (c :: rest) = [] :: read ends later := by
  rw [read, take, passed]

theorem read_inside (inside : ends.pass? (c :: rest) = none) : read ends (c :: rest) =
    match read ends rest with
    | [] => [[c]]
    | line :: lines => (c :: line) :: lines := by
  rw [read, take, inside]
  cases rest with
  | nil => simp only [take, read_nil]
  | cons d rest => simp only [read]

theorem pass?_feed (rest : List Char) : ends.pass? ('\n' :: rest) = some rest := by
  cases ends <;> rfl

theorem pass?_inside (inside : Line.isNewline c = false) (rest : List Char) : ends.pass? (c :: rest) = none := by
  unfold LineEnds.pass?
  split <;> first | rfl | (rename_i same; cases same; cases inside)

theorem read_line (own : ∀ c ∈ line, Line.isNewline c = false) (rest : List Char) :
    read ends (line ++ '\n' :: rest) = line :: read ends rest := by
  induction line with
  | nil => exact read_ended (pass?_feed rest)
  | cons c line ih =>
      obtain ⟨first, others⟩ := List.forall_mem_cons.mp own
      rw [List.cons_append, read_inside (pass?_inside first _), ih others]

theorem pass?_newline (ended : Line.isNewline c = true) (lone : c = '\r' → rest.head? ≠ some '\n') :
    LineEnds.newlines.pass? (c :: rest) = some rest := by
  rcases (by simpa [Line.isNewline] using ended : c = '\n' ∨ c = '\r') with rfl | rfl
  · exact pass?_feed rest
  · unfold LineEnds.pass?
    split <;> simp_all

/-- A text character by character, but for a carriage return and a line feed that follow one another. -/
@[elab_as_elim]
theorem paired_induction {motive : List Char → Prop} (nil : motive [])
    (pair : ∀ rest, motive rest → motive ('\r' :: '\n' :: rest))
    (single : ∀ c rest, (c = '\r' → rest.head? ≠ some '\n') → motive rest → motive (c :: rest)) :
    (chars : List Char) → motive chars
  | [] => nil
  | c :: rest => by
      by_cases paired : c = '\r' ∧ rest.head? = some '\n'
      · obtain ⟨rfl, first⟩ := paired
        obtain ⟨rest, rfl⟩ := List.head?_eq_some_iff.mp first
        exact pair rest (paired_induction nil pair single rest)
      · exact single c rest (not_and.mp paired) (paired_induction nil pair single rest)

theorem read_newlines (chars : List Char) : read .newlines chars = Line.split Line.isNewline chars := by
  induction chars using paired_induction with
  | nil => exact read_nil
  | pair rest ih => rw [Line.split_paired, @read_ended .newlines _ _ rest rfl, ih]
  | single c rest lone ih =>
      rw [Line.split_char lone]
      cases ended : Line.isNewline c with
      | true => rw [read_ended (pass?_newline ended lone), ih, if_pos rfl]
      | false =>
          rw [read_inside (pass?_inside ended rest), ih]
          rfl

/-- A line as it is read where its carriage return does not belong to its end. -/
def Trailed (read line : List Char) : Prop :=
  read = line ∨ read = line ++ ['\r']

theorem trailed_front (c : Char) {raw cut : List (List Char)} : List.Forall₂ Trailed raw cut →
    List.Forall₂ Trailed
      (match raw with | [] => [[c]] | line :: lines => (c :: line) :: lines)
      (match cut with | [] => [[c]] | line :: lines => (c :: line) :: lines) := by
  intro trails
  cases trails with
  | nil => exact .cons (Or.inl rfl) .nil
  | cons first others =>
      rcases first with rfl | rfl
      · exact .cons (Or.inl rfl) others
      · exact .cons (Or.inr rfl) others

/-- If every carriage return has a line feed behind it, a line may have one carriage return too many. -/
theorem read_feeds (fed : Line.ReturnsFed chars) :
    List.Forall₂ Trailed (read .feeds chars) (Line.split Line.isNewline chars) := by
  induction chars using paired_induction with
  | nil => exact read_nil ▸ .nil
  | pair rest ih =>
      have later : Line.ReturnsFed rest := (Line.returnsFed_cons.mp (Line.returnsFed_cons.mp fed).2).2
      have kept : LineEnds.feeds.pass? ('\r' :: '\n' :: rest) = none := rfl
      rw [Line.split_paired, read_inside kept, read_ended (pass?_feed rest)]
      exact .cons (Or.inr rfl) (ih later)
  | single c rest lone ih =>
      obtain ⟨next, later⟩ := Line.returnsFed_cons.mp fed
      have own : c ≠ '\r' := fun same => lone same (next same)
      rw [Line.split_char lone]
      cases ended : Line.isNewline c with
      | true =>
          obtain rfl : c = '\n' := by simpa [Line.isNewline, own] using ended
          rw [read_ended (pass?_feed rest), if_pos rfl]
          exact .cons (Or.inl rfl) (ih later)
      | false =>
          rw [read_inside (pass?_inside ended rest), if_neg Bool.false_ne_true]
          exact trailed_front c (ih later)

end Text.Stream

namespace Text.Blank

theorem stripped_trailing {drop : Char → Bool} {c : Char} (blank : drop c = true) (line : List Char) :
    stripped drop (line ++ [c]) = stripped drop line := by
  unfold stripped
  rw [List.dropWhile_append]
  split
  · next none =>
      rw [List.isEmpty_iff.mp none, List.dropWhile_cons_of_pos blank, List.dropWhile_nil]
  · rw [List.reverse_append, List.reverse_singleton, List.singleton_append, List.dropWhile_cons_of_pos blank]

end Text.Blank

namespace InputLine
open Text

/-- The lines of a stream are those of the text as a file, whatever ends a line, unless a carriage return that the
stream keeps stands inside a line. -/
theorem ofLines_lines {ends : Stream.LineEnds} {text : String} (fed : ends = .feeds → Line.ReturnsFed text.toList) :
    ofLines (Stream.lines ends text) = ofText text := by
  cases ends with
  | newlines => rw [Stream.lines, Stream.read_newlines, ofText, Line.entered]
  | feeds =>
      have trimmed : ∀ read line, Stream.Trailed read line →
          Blank.trim (String.ofList read) = Blank.trim (String.ofList line) := by
        intro read line trails
        rcases trails with rfl | rfl
        · rfl
        · simp only [Blank.trim, String.toList_ofList, Blank.stripped_trailing (by decide : Blank.isBlank '\r' = true)]
      simp only [Stream.lines, ofText, Line.entered, ofLines, List.map_map]
      rw [← List.forall₂_eq_eq_eq, List.forall₂_map_left_iff, List.forall₂_map_right_iff]
      exact (Stream.read_feeds (fed rfl)).imp trimmed

example : ofLines (Stream.lines .feeds "1/0\r1+1") = ["1/0\r1+1"] ∧ ofText "1/0\r1+1" = ["1/0", "1+1"] := by
  decide +kernel

end InputLine

end DigitCalc
