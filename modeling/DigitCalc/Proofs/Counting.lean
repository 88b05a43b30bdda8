import DigitCalc.Proofs.Interleaving

/-! Coordinates over calls in any order. A call passes some of the characters in front of the reader, or none, also when
it fails, and nothing else moves it. So wherever a reader starts, its coordinates stay those that are counted over the
characters between its first position and the one it is at. -/
namespace DigitCalc

section Fold
variable (here : Coordinates) (passed : List Char)

theorem fold_line : (passed.foldl Coordinates.past here).line = here.line + passed.count '\n' := by
  induction passed using List.reverseRecOn with
  | nil => simp
  | append_singleton before c ih =>
      rw [List.foldl_append, List.foldl_cons, List.foldl_nil]
      by_cases feed : c = '\n'
      · simp [Coordinates.past, feed, ih, Int.add_assoc]
      · simp [Coordinates.past, feed, ih]

theorem fold_column_unfed (unfed : '\n' ∉ passed) :
    (passed.foldl Coordinates.past here).column = here.column + passed.length := by
  induction passed using List.reverseRecOn with
  | nil => simp
  | append_singleton before c ih =>
      rw [List.mem_append, List.mem_singleton, not_or] at unfed
      rw [List.foldl_append, List.foldl_cons, List.foldl_nil]
      simp [Coordinates.past, Ne.symm unfed.2, ih unfed.1, Int.add_assoc]

/-- Behind the last line feed columns are counted anew, whatever the first one was. -/
theorem fold_column_fed (fed : '\n' ∈ passed) :
    (passed.foldl Coordinates.past here).column = 1 + (passed.reverse.takeWhile (· ≠ '\n')).length := by
  induction passed using List.reverseRecOn with
  | nil => cases fed
  | append_singleton before c ih =>
      rw [List.foldl_append, List.foldl_cons, List.foldl_nil]
      by_cases feed : c = '\n'
      · simp [Coordinates.past, feed]
      · have earlier : '\n' ∈ before := by simpa [Ne.symm feed] using fed
        simp [Coordinates.past, feed, ih earlier, Int.add_assoc]

end Fold

def between (source : String) (first last : Int) : List Char :=
  (source.toList.drop first.toNat).take (last - first).toNat

/-- Coordinates that are counted from others over the characters between them. -/
structure Counted (source : String) (first now : Coordinates) : Prop where
  forward : first.position ≤ now.position
  inside : first.position ≤ source.length → now.position ≤ source.length
  line : now.line = first.line + (between source first.position now.position).count '\n'
  column : '\n' ∉ between source first.position now.position →
    now.column = first.column + (now.position - first.position)
  columnFed : '\n' ∈ between source first.position now.position →
    now.column = 1 + ((between source first.position now.position).reverse.takeWhile (· ≠ '\n')).length

namespace Reader

/-- The later reader is the earlier one behind some more characters. -/
structure Passes (reader : Reader) (passed : List Char) (later : Reader) : Prop where
  text : reader.rest = passed ++ later.rest
  here : later.here = passed.foldl .past reader.here

namespace Passes
variable {reader middle later : Reader} {passed more : List Char}

theorem none (reader : Reader) : reader.Passes [] reader :=
  ⟨rfl, rfl⟩

theorem append (first : reader.Passes passed middle) (last : middle.Passes more later) :
    reader.Passes (passed ++ more) later where
  text := by rw [first.text, last.text, List.append_assoc]
  here := by rw [last.here, first.here, List.foldl_append]

theorem one (here : Coordinates) (c : Char) (rest : List Char) : Passes ⟨c :: rest, here⟩ [c] ⟨rest, here.past c⟩ :=
  ⟨rfl, rfl⟩

theorem position (passes : reader.Passes passed later) :
    later.here.position = reader.here.position + passed.length := by
  rw [passes.here, fold_position]

end Passes

/-! One call. -/

theorem skipBlanks_passes (reader : Reader) : reader.Passes (reader.rest.takeWhile isBlank) reader.skipBlanks :=
  ⟨List.takeWhile_append_dropWhile.symm, rfl⟩

theorem nextToken_passes (reader : Reader) : ∃ passed, reader.Passes passed reader.nextToken.2 := by
  induction reader using reader_induction with
  | ended here => exact ⟨[], .none _⟩
  | blank here c rest blank ih =>
      obtain ⟨passed, later⟩ := ih
      rw [nextToken_blank blank]
      exact ⟨[c] ++ passed, (Passes.one here c rest).append later⟩
  | lexeme here c rest kind value dark found ih =>
      rw [nextToken_lexeme dark found]
      exact ⟨[c], .one here c rest⟩
  | foreign here c rest outside =>
      rw [nextToken_foreign outside]
      exact ⟨[], .none _⟩

theorem drain_goal (reader : Reader) : reader.drain.2 = reader.goal := by
  obtain ⟨chars, here⟩ := reader
  rw [drain_reading]
  unfold reading goal known
  cases chars.dropWhile (alphabet.contains ·) <;> rfl

theorem drain_passes (reader : Reader) : reader.Passes (known reader.rest) reader.drain.2 := by
  rw [drain_goal]
  exact ⟨List.takeWhile_append_dropWhile.symm, rfl⟩

theorem answer_passes (reader : Reader) (call : Call) : ∃ passed, reader.Passes passed (reader.answer call).2 := by
  cases call with
  | next =>
      obtain ⟨chars, here⟩ := reader
      cases chars with
      | nil => exact ⟨[], .none _⟩
      | cons c rest => exact ⟨[c], .one here c rest⟩
  | peek => exact ⟨[], .none reader⟩
  | atEnd => exact ⟨[], .none reader⟩
  | skip => exact ⟨_, skipBlanks_passes reader⟩
  | token =>
      rw [answer_later rfl]
      exact nextToken_passes reader
  | iterate =>
      rw [answer_later rfl]
      exact nextToken_passes reader
  | rest =>
      have same : (reader.answer .rest).2 = reader.drain.2 := by
        simp only [answer]
        rcases reader.drain with ⟨fault | tokens, later⟩ <;> rfl
      rw [same]
      exact ⟨_, drain_passes reader⟩

theorem answer_ended {reader : Reader} (ended : reader.rest = []) :
    reader.answer .next = (.pastEnd reader.here, reader) := by
  simp [answer, next?, ended]

/-- A character outside the alphabet is refused and stays in front, with the blanks before it passed. -/
theorem nextToken_refused {blanks rest : List Char} {c : Char} (here : Coordinates)
    (blank : ∀ b ∈ blanks, isBlank b = true) (foreign : c ∉ alphabet) :
    nextToken ⟨blanks ++ c :: rest, here⟩ =
      (.error ⟨c, (blanks.foldl .past here).place⟩, ⟨c :: rest, blanks.foldl .past here⟩) := by
  induction blanks generalizing here with
  | nil => exact nextToken_foreign foreign
  | cons b blanks ih =>
      obtain ⟨first, others⟩ := List.forall_mem_cons.mp blank
      rw [List.cons_append, nextToken_blank first]
      exact ih _ others

/-! Calls in a row. -/

theorem after_passes (reader : Reader) (calls : List Call) : ∃ passed, reader.Passes passed (reader.after calls) := by
  induction calls generalizing reader with
  | nil => exact ⟨[], .none reader⟩
  | cons call calls ih =>
      obtain ⟨passed, first⟩ := answer_passes reader call
      obtain ⟨more, others⟩ := ih (reader.answer call).2
      exact ⟨passed ++ more, first.append others⟩

theorem answers_length (reader : Reader) (calls : List Call) : (answers reader calls).length = calls.length := by
  induction calls generalizing reader with
  | nil => rfl
  | cons call calls ih => exact congrArg Nat.succ (ih (reader.answer call).2)

theorem answers_before (reader : Reader) (before : List Call) (call : Call) (later : List Call) :
    (reader.here :: (answers reader (before ++ call :: later)).map Prod.snd)[before.length]? =
      some (reader.after before).here := by
  induction before generalizing reader with
  | nil => rfl
  | cons first before ih => exact ih (reader.answer first).2

/-! From a place in a text. -/

def placed (source : String) (first : Coordinates) : Reader :=
  ⟨source.toList.drop first.position.toNat, first⟩

section Placed
variable {source : String} {first : Coordinates} {reader : Reader} {passed : List Char}

theorem run_placed (notBefore : 0 ≤ first.position) (calls : List Call) :
    run source first calls = answers (placed source first) calls := by
  rw [run, openAt, window, if_pos notBefore]
  rfl

theorem placed_text (passes : (placed source first).Passes passed reader) :
    source.toList.drop first.position.toNat = passed ++ reader.rest :=
  passes.text

theorem placed_position (passes : (placed source first).Passes passed reader) :
    reader.here.position = first.position + passed.length :=
  passes.position

theorem between_passed (passes : (placed source first).Passes passed reader) :
    between source first.position reader.here.position = passed := by
  have far : (reader.here.position - first.position).toNat = passed.length := by
    rw [placed_position passes]
    omega
  rw [between, far, placed_text passes, List.take_left]

theorem placed_left (notBefore : 0 ≤ first.position) (passes : (placed source first).Passes passed reader) :
    reader.rest = source.toList.drop reader.here.position.toNat := by
  have there : reader.here.position.toNat = first.position.toNat + passed.length := by
    rw [placed_position passes]
    omega
  rw [there, ← List.drop_drop, placed_text passes, List.drop_left]

theorem placed_counted (notBefore : 0 ≤ first.position) (passes : (placed source first).Passes passed reader) :
    Counted source first reader.here where
  forward := by
    rw [placed_position passes]
    omega
  inside within := by
    have lengths := congrArg List.length (placed_text passes)
    rw [List.length_drop, List.length_append, String.length_toList] at lengths
    rw [placed_position passes]
    omega
  line := by
    rw [between_passed passes, passes.here]
    exact fold_line first passed
  column unfed := by
    rw [between_passed passes] at unfed
    rw [placed_position passes, passes.here, fold_column_unfed _ passed unfed]
    change first.column + _ = _
    omega
  columnFed fed := by
    rw [between_passed passes] at fed ⊢
    rw [passes.here]
    exact fold_column_fed _ passed fed

theorem placed_ended (notBefore : 0 ≤ first.position) (passes : (placed source first).Passes passed reader)
    (ended : (source.length : Int) ≤ reader.here.position) :
    reader.answer .next = (.pastEnd reader.here, reader) := by
  apply answer_ended
  rw [placed_left notBefore passes, List.drop_eq_nil_iff, String.length_toList]
  omega

theorem placed_taken (notBefore : 0 ≤ first.position) (passes : (placed source first).Passes passed reader) {c : Char}
    (there : source.toList[reader.here.position.toNat]? = some c) :
    ∃ rest, reader.answer .next = (.text (String.singleton c), ⟨rest, reader.here.past c⟩) := by
  have left := placed_left notBefore passes
  obtain ⟨within, same⟩ := List.getElem?_eq_some_iff.mp there
  rw [List.drop_eq_getElem_cons within, same] at left
  exact ⟨source.toList.drop (reader.here.position.toNat + 1), by simp [answer, next?, left]⟩

theorem placed_refused (notBefore : 0 ≤ first.position) (passes : (placed source first).Passes passed reader)
    {blanks rest : List Char} {c : Char}
    (ahead : source.toList.drop reader.here.position.toNat = blanks ++ c :: rest) (blank : ∀ b ∈ blanks, b ∈ spaces)
    (foreign : c ∉ alphabet) :
    reader.answer .token = (.unrecognized ⟨c, (blanks.foldl .past reader.here).place⟩,
      ⟨c :: rest, blanks.foldl .past reader.here⟩) := by
  have left := placed_left notBefore passes
  have same : reader.nextToken = nextToken ⟨blanks ++ c :: rest, reader.here⟩ := by rw [← ahead, ← left]
  have blank : ∀ b ∈ blanks, isBlank b = true := fun b member => (isBlank_iff b).mpr (blank b member)
  simp only [answer, same, nextToken_refused reader.here blank foreign]

end Placed

end DigitCalc.Reader
