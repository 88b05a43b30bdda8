import DigitCalc.Proofs.Positions

/-! The line that is shown for a place. Places count lines by line feeds alone, and what is shown is cut wherever
Unicode ends a line. Among characters of the alphabet the two differ at carriage returns only: if each of them that
stands in an earlier line belongs to a line feed, the line that is shown begins where the line of the place begins, and
goes on up to its first boundary; a caret is drawn only inside it. -/
namespace DigitCalc

namespace Text.Line

/-- Whole lines: each is closed by a line feed, before which a carriage return may stand, and holds no other break. -/
inductive Whole (ends : Char → Bool) : List Char → Prop where
  | nil : Whole ends []
  | feed {rest : List Char} (later : Whole ends rest) : Whole ends ('\n' :: rest)
  | paired {rest : List Char} (later : Whole ends ('\n' :: rest)) : Whole ends ('\r' :: '\n' :: rest)
  | plain {c d : Char} {rest : List Char} (inside : ends c = false) (later : Whole ends (d :: rest)) :
      Whole ends (c :: d :: rest)

section Split
variable {ends : Char → Bool}

theorem split_paired (rest : List Char) : split ends ('\r' :: '\n' :: rest) = [] :: split ends rest :=
  rfl

theorem split_char {c : Char} {rest : List Char} (lone : c = '\r' → rest.head? ≠ some '\n') :
    split ends (c :: rest) =
      if ends c then [] :: split ends rest else
        match split ends rest with
        | [] => [[c]]
        | line :: lines => (c :: line) :: lines := by
  apply split.eq_3
  rintro after rfl rfl
  exact lone rfl rfl

theorem split_line (feeds : ends '\n' = true) (returns : ends '\r' = true) {line : List Char}
    (inside : ∀ c ∈ line, ends c = false) (rest : List Char) :
    split ends (line ++ '\n' :: rest) = line :: split ends rest := by
  induction line with
  | nil => rw [List.nil_append, split_char (by simp), if_pos feeds]
  | cons c line ih =>
      obtain ⟨own, later⟩ := List.forall_mem_cons.mp inside
      have lone : c = '\r' → (line ++ '\n' :: rest).head? ≠ some '\n' := by
        rintro rfl
        rw [returns] at own
        cases own
      rw [List.cons_append, split_char lone, own, ih later]
      rfl

theorem split_ended {c : Char} (ended : ends c = true) (rest : List Char) :
    ∃ lines, split ends (c :: rest) = [] :: lines := by
  by_cases paired : c = '\r' ∧ rest.head? = some '\n'
  · obtain ⟨rfl, first⟩ := paired
    obtain ⟨rest, rfl⟩ := List.head?_eq_some_iff.mp first
    exact ⟨split ends rest, split_paired rest⟩
  · rw [not_and] at paired
    exact ⟨split ends rest, by rw [split_char paired, if_pos ended]⟩

theorem not_ends {c d : Char} (inside : ends c = false) (breaks : ends d = true) : c ≠ d := by
  rintro rfl
  rw [breaks] at inside
  cases inside

theorem split_first (returns : ends '\r' = true) (c : Char) (rest : List Char) :
    (split ends (c :: rest)).head? = some ((c :: rest).takeWhile (!ends ·)) := by
  induction rest generalizing c with
  | nil =>
      rw [split_char (by simp)]
      cases ended : ends c <;> simp [split, ended]
  | cons d rest ih =>
      cases ended : ends c with
      | true =>
          obtain ⟨lines, cut⟩ := split_ended ended (d :: rest)
          simp [cut, ended]
      | false =>
          rw [split_char (fun same => absurd same (not_ends ended returns)), ended]
          have first := ih d
          cases later : split ends (d :: rest) with
          | nil => simp [later] at first
          | cons line lines =>
              rw [later] at first
              simpa [ended] using first

theorem Whole.feeds {c : Char} {rest : List Char} : Whole ends (c :: rest) → '\n' ∈ c :: rest
  | .feed _ => List.mem_cons_self
  | .paired _ => List.mem_cons_of_mem _ List.mem_cons_self
  | .plain _ later => List.mem_cons_of_mem _ later.feeds

/-- Whole lines are cut off before what follows them, one for each line feed. -/
theorem split_whole (feeds : ends '\n' = true) (returns : ends '\r' = true) {chars : List Char}
    (whole : Whole ends chars) (rest : List Char) :
    ∃ lines, split ends (chars ++ rest) = lines ++ split ends rest ∧ lines.length = chars.count '\n' := by
  induction whole with
  | nil => exact ⟨[], rfl, rfl⟩
  | @feed later_chars later ih =>
      obtain ⟨lines, cut, count⟩ := ih
      refine ⟨[] :: lines, ?_, by simp [count]⟩
      rw [List.cons_append, split_char (by simp), if_pos feeds, cut]
      rfl
  | @paired later_chars later ih =>
      obtain ⟨lines, cut, count⟩ := ih
      refine ⟨lines, ?_, by simp [count]⟩
      rw [← cut, List.cons_append, List.cons_append, split_paired, split_char (by simp), if_pos feeds]
  | @plain c d later_chars inside later ih =>
      obtain ⟨lines, cut, count⟩ := ih
      rw [List.cons_append] at cut
      rw [List.cons_append, List.cons_append, split_char (fun same => absurd same (not_ends inside returns)), inside,
        cut, List.count_cons_of_ne (not_ends inside feeds)]
      -- A whole line follows, and the character is added to it.
      cases lines with
      | nil => exact absurd later.feeds (List.count_eq_zero.mp count.symm)
      | cons line lines => exact ⟨(c :: line) :: lines, rfl, count⟩

end Split

/-- Each carriage return that has a line feed somewhere behind it has one directly behind it. -/
def ReturnsPaired (chars : List Char) : Prop :=
  ∀ first last, chars = first ++ '\r' :: last → '\n' ∈ last → last.head? = some '\n'

/-- Each carriage return has a line feed directly behind it. -/
def ReturnsFed (chars : List Char) : Prop :=
  ∀ first last, chars = first ++ '\r' :: last → last.head? = some '\n'

theorem returnsFed_nil : ReturnsFed [] := by
  intro first last split
  simp at split

theorem returnsFed_cons {c : Char} {rest : List Char} :
    ReturnsFed (c :: rest) ↔ (c = '\r' → rest.head? = some '\n') ∧ ReturnsFed rest := by
  constructor
  · intro fed
    refine ⟨?_, fun first last split => fed (c :: first) last (congrArg (c :: ·) split)⟩
    rintro rfl
    exact fed [] rest rfl
  · rintro ⟨own, later⟩ first last split
    rcases List.cons_eq_append_iff.mp split with ⟨rfl, same⟩ | ⟨first, rfl, same⟩
    · cases same
      exact own rfl
    · exact later first last same

instance decideReturnsFed : (chars : List Char) → Decidable (ReturnsFed chars)
  | [] => .isTrue returnsFed_nil
  | _ :: rest =>
      have := decideReturnsFed rest
      decidable_of_iff _ returnsFed_cons.symm

theorem returnsFed_paired {chars : List Char} (fed : ReturnsFed chars) : ReturnsPaired chars :=
  fun first last split _ => fed first last split

theorem returnsPaired_prefix {first : List Char} (last : List Char) (paired : ReturnsPaired (first ++ last)) :
    ReturnsPaired first := by
  rintro before after rfl feed
  have next := paired before (after ++ last) (List.append_assoc _ _ _) (List.mem_append_left last feed)
  obtain ⟨d, rest, rfl⟩ := List.exists_cons_of_ne_nil (List.ne_nil_of_mem feed)
  exact next

theorem returnsPaired_suffix (first : List Char) {last : List Char} (paired : ReturnsPaired (first ++ last)) :
    ReturnsPaired last := by
  rintro before after rfl feed
  exact paired (first ++ before) after (List.append_assoc _ _ _).symm feed

theorem whole_ended {ends : Char → Bool} (chars : List Char)
    (breaks : ∀ c ∈ chars, ends c = true → c = '\n' ∨ c = '\r') (paired : ReturnsPaired (chars ++ ['\n'])) :
    Whole ends (chars ++ ['\n']) := by
  induction chars with
  | nil => exact .feed .nil
  | cons c rest ih =>
      obtain ⟨first, later⟩ := List.forall_mem_cons.mp breaks
      have whole := ih later (returnsPaired_suffix [c] paired)
      rw [List.cons_append]
      cases ended : ends c with
      | true =>
          rcases first ended with rfl | rfl
          · exact .feed whole
          · obtain ⟨more, same⟩ := List.head?_eq_some_iff.mp (paired [] (rest ++ ['\n']) rfl (by simp))
            rw [same] at whole ⊢
            exact .paired whole
      | false =>
          obtain ⟨d, more, same⟩ := List.exists_cons_of_ne_nil (List.concat_ne_nil '\n' rest)
          rw [same] at whole ⊢
          exact .plain ended whole

end Text.Line

theorem placeAfter_line (before : List Char) : ∃ earlier own, before = earlier ++ own ∧
    (earlier = [] ∨ ∃ chars, earlier = chars ++ ['\n']) ∧
    placeAfter before = ⟨1 + earlier.count '\n', 1 + own.length⟩ := by
  induction before using List.reverseRecOn with
  | nil => exact ⟨[], [], rfl, Or.inl rfl, rfl⟩
  | append_singleton before c ih =>
      by_cases feed : c = '\n'
      · subst c
        refine ⟨before ++ ['\n'], [], (List.append_nil _).symm, Or.inr ⟨before, rfl⟩, ?_⟩
        simp [placeAfter]
      · obtain ⟨earlier, own, rfl, starts, place⟩ := ih
        refine ⟨earlier, own ++ [c], List.append_assoc _ _ _, starts, ?_⟩
        have moved := past_place ⟨0, 1 + earlier.count '\n', 1 + own.length⟩ (earlier ++ own) c place.symm
        rw [← moved]
        simp [Coordinates.past, Coordinates.place, feed, Int.add_assoc]

theorem alphabet_breaks {c : Char} (among : c ∈ Reader.alphabet) (ended : Text.Line.isBoundary c = true) :
    c = '\n' ∨ c = '\r' := by
  have only : Reader.alphabet.all (fun d => !Text.Line.isBoundary d || Text.Line.isNewline d) = true := by decide
  simpa [ended, Text.Line.isNewline] using List.all_eq_true.mp only c among

theorem earlier_whole {earlier : List Char} (known : ∀ c ∈ earlier, c ∈ Reader.alphabet)
    (starts : earlier = [] ∨ ∃ chars, earlier = chars ++ ['\n']) (paired : Text.Line.ReturnsPaired earlier) :
    Text.Line.Whole Text.Line.isBoundary earlier := by
  rcases starts with rfl | ⟨chars, rfl⟩
  · exact .nil
  · apply Text.Line.whole_ended chars _ paired
    intro c member ended
    exact alphabet_breaks (known c (List.mem_append_left _ member)) ended

namespace Diagnostic

theorem shownLines_some {source : String} (shown : Text.Line.shown source ≠ []) :
    shownLines source = Text.Line.shown source := by
  unfold shownLines
  split
  · next none => exact absurd none shown
  · rfl

theorem shownLine_number (source : String) (n : Nat) :
    shownLine? source (some (1 + n)) = (shownLines source)[n]? := by
  have positive : (1 : Int) ≤ 1 + n := by omega
  have index : (1 + (n : Int) - 1).toNat = n := by omega
  unfold shownLine?
  generalize same : some (1 + (n : Int)) = line
  split
  · cases same
  · have zero := Option.some.inj same
    omega
  · cases same
    simp only [positive, index, if_true]

theorem shownLine_whole {source : String} {earlier rest : List Char} (split : source.toList = earlier ++ rest)
    (whole : Text.Line.Whole Text.Line.isBoundary earlier) (more : rest ≠ []) :
    shownLine? source (some (1 + earlier.count '\n')) =
      some (String.ofList (rest.takeWhile (!Text.Line.isBoundary ·))) := by
  obtain ⟨c, rest, rfl⟩ := List.exists_cons_of_ne_nil more
  obtain ⟨lines, cut, count⟩ := Text.Line.split_whole (by decide) (by decide) whole (c :: rest)
  have first := @Text.Line.split_first Text.Line.isBoundary (by decide) c rest
  obtain ⟨later, own⟩ := List.head?_eq_some_iff.mp first
  have shown : Text.Line.shown source = lines.map String.ofList ++
      String.ofList ((c :: rest).takeWhile (!Text.Line.isBoundary ·)) :: later.map String.ofList := by
    rw [Text.Line.shown, split, cut, own, List.map_append, List.map_cons]
  rw [shownLine_number, shownLines_some (by simp [shown]), shown, ← count]
  simp

/-- Behind characters of the alphabet whose carriage returns are paired, a column that lies in the line shown for a
place is the column of the character there. -/
theorem shownLine_under {source line : String} {before after : List Char} {c : Char}
    (split : source.toList = before ++ c :: after) (known : ∀ d ∈ before, d ∈ Reader.alphabet)
    (paired : Text.Line.ReturnsPaired before) (shown : shownLine? source (some (placeAfter before).line) = some line)
    (inside : (placeAfter before).column ≤ line.length) :
    line.toList[((placeAfter before).column - 1).toNat]? = some c := by
  obtain ⟨earlier, own, rfl, starts, place⟩ := placeAfter_line before
  have whole := earlier_whole (fun d member => known d (List.mem_append_left own member)) starts
    (Text.Line.returnsPaired_prefix own paired)
  have column : (placeAfter (earlier ++ own)).column - 1 = own.length := by
    simp only [place]
    omega
  rw [List.append_assoc] at split
  rw [place, shownLine_whole split whole (by simp)] at shown
  cases shown
  have within : own.length < ((own ++ c :: after).takeWhile (!Text.Line.isBoundary ·)).length := by
    rw [String.length_ofList] at inside
    omega
  have standing := List.prefix_iff_getElem?.mp (List.takeWhile_prefix (!Text.Line.isBoundary ·)) own.length within
  rw [column, String.toList_ofList, Int.toNat_natCast, List.getElem?_eq_getElem within, ← standing]
  simp

theorem shown?_some {diagnostic : Diagnostic} {source line : String} {column : Int}
    (drawn : diagnostic.shown? source = some (line, column)) :
    diagnostic.origin ≠ .parser ∧ diagnostic.position = some column ∧
      shownLine? source diagnostic.line = some line ∧ column ≤ line.length := by
  unfold shown? at drawn
  split at drawn
  · cases drawn
  · next found shown columned =>
      split at drawn
      · next inside =>
          cases drawn
          exact ⟨columned, found, shown, inside⟩
      · cases drawn
  · cases drawn

end Diagnostic

end DigitCalc
