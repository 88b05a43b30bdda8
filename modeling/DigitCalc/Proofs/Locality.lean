import DigitCalc.Proofs.Lookahead

/-! One level read at one place. What it answers does not depend on the tokens before that place, nor on those behind
the one it ends at: read elsewhere among other tokens it gives the same tree and ends as far on, and it fails in the
same way as far on. Where it succeeds, it has passed a token at least and none that is not there. -/
namespace DigitCalc.Grammar

theorem spells_some {level : Level} {tokens : List Token} {tree : Expr} {nesting : Nat}
    (spelled : Spells level tokens tree nesting) : 0 < tokens.length := by
  induction spelled with
  | digit => exact Nat.one_pos
  | group => exact Nat.succ_pos _
  | plain operand ih => exact ih
  | negated => exact Nat.succ_pos _
  | chain layer first signs operands ih_first ih_operands =>
      rw [List.length_append]
      exact Nat.add_pos_left ih_first _

theorem procedure_passes {limit : Int} {level : Level} {room : Nat} {budget : Budget} {cursor next : Cursor}
    {tree : Expr} (read : level.procedure limit room budget cursor = .ok (tree, next)) :
    cursor.position < next.position ∧ next.position ≤ cursor.position + cursor.rest.length := by
  have uncounted : level.procedure limit room .unbounded cursor = .ok (tree, next) := by
    rcases procedure_keeps limit level room budget cursor with same | ⟨out, _⟩
    · exact same.symm.trans read
    · cases out.symm.trans read
  obtain ⟨tokens, nesting, spelled, fits, consumed, moved⟩ := reads_sound ((reads_iff _ _ _ _ _).mpr uncounted)
  have some := spells_some spelled
  have length := congrArg List.length consumed
  rw [List.length_append] at length
  omega

abbrev Answer := Except ParseFault (Expr × Int)

namespace Answer

def shift (offset : Int) : Answer → Answer
  | .ok (tree, next) => .ok (tree, next + offset)
  | .error fault => .error (fault.shift offset)

/-- The index of the first token that was not taken, which is the one at fault where there is a fault. -/
def EndsAt (place : Int) : Answer → Prop
  | .ok (_, next) => next = place
  | .error (.grammar fault) => fault.position = place
  | .error _ => False

end Answer

def Outcome.answer (outcome : Outcome) : Answer :=
  outcome.map fun found => (found.1, found.2.position)

/-- What a level answers at a place where `depth` levels are open already. -/
def answerAt (level : Level) (budget : Budget) (limit : Int) (tokens : List Token) (position depth : Int) : Answer :=
  Outcome.answer (readAt level budget limit tokens position depth)

theorem answer_onto (offset : Int) (later : List Token) (outcome : Outcome) :
    Outcome.answer (onto offset later outcome) = (Outcome.answer outcome).shift offset := by
  rcases outcome with fault | ⟨tree, next⟩ <;> rfl

/-- Told faults keep their place, and what is told has been met. -/
theorem telling_onto (offset : Int) (later : List Token) (outcome : Outcome) :
    telling (onto offset later outcome) = onto offset later (telling outcome) := by
  rcases outcome with fault | ⟨tree, next⟩
  · exact congrArg Except.error (fault.shift_told offset)
  · rfl

theorem endsAt_told {place : Int} {outcome : Outcome} (ends : (Outcome.answer (telling outcome)).EndsAt place) :
    (Outcome.answer outcome).EndsAt place := by
  rcases outcome with fault | ⟨tree, next⟩
  · cases fault with
    | grammar fault =>
        change Answer.EndsAt place (.error (ParseFault.told (.grammar fault))) at ends
        by_cases unwritten : fault.message? = none
        · rw [ParseFault.told, if_pos unwritten] at ends
          exact ends.elim
        · rwa [ParseFault.told, if_neg unwritten] at ends
    | _ => exact ends.elim
  · exact ends

theorem Answer.shift_zero (answer : Answer) : answer.shift 0 = answer := by
  rcases answer with fault | ⟨tree, next⟩
  · exact congrArg Except.error fault.shift_zero
  · exact congrArg (fun place => Except.ok (tree, place)) (Int.add_zero next)

section Places
variable (level : Level) (budget : Budget) (limit depth : Int) (before tokens : List Token)

theorem answerAt_behind : answerAt level budget limit (before ++ tokens) before.length depth =
    Outcome.answer (telling (level.procedure limit (limit - depth).toNat budget ⟨before.length, tokens⟩)) := by
  have opened : Cursor.openAt (before ++ tokens) before.length = .ok ⟨before.length, tokens⟩ := by
    simp [Cursor.openAt, window_ofNat]
  rw [answerAt, readAt, opened]
  rfl

theorem answerAt_start : answerAt level budget limit tokens 0 depth =
    Outcome.answer (telling (level.procedure limit (limit - depth).toNat budget ⟨0, tokens⟩)) :=
  answerAt_behind level budget limit depth [] tokens

end Places

theorem leaves_ends {seen later first rest : List Token} {outcome : Outcome} (leaves : Leaves 0 seen later outcome)
    (ends : (Outcome.answer outcome).EndsAt first.length) (same : seen ++ later = first ++ rest) :
    seen = first ∧ later = rest := by
  have length : (seen.length : Int) = first.length := by
    rcases outcome with fault | ⟨tree, next⟩
    · cases fault with
      | grammar fault => exact (Int.zero_add _).symm.trans (leaves.symm.trans ends)
      | _ => cases ends
    · cases leaves
      exact (Int.zero_add _).symm.trans ends
  exact List.append_inj same (Int.ofNat.inj length)

/-- A level is read at any place as it is read at the first one, so many places on, and its answer stays the same
whatever stands behind the token that it ends at. The index behind an expression lies behind its first token, and not
behind the last one of all. -/
theorem answerAt_local (level : Level) (budget : Budget) (limit depth : Int) (before tokens : List Token) :
    answerAt level budget limit (before ++ tokens) before.length depth =
      (answerAt level budget limit tokens 0 depth).shift before.length ∧
    (∀ seen token later, tokens = seen ++ token :: later →
      (answerAt level budget limit tokens 0 depth).EndsAt seen.length → ∀ other,
        answerAt level budget limit (seen ++ token :: other) 0 depth = answerAt level budget limit tokens 0 depth) ∧
    ∀ tree next, answerAt level budget limit (before ++ tokens) before.length depth = .ok (tree, next) →
      before.length < next ∧ next ≤ (before ++ tokens).length := by
  obtain ⟨seen, later, consumed, leaves, again⟩ :=
    procedure_decided limit level (limit - depth).toNat budget ⟨0, tokens⟩
  refine ⟨?_, ?_, ?_⟩
  · have elsewhere := again before.length later rfl
    rw [← consumed, Int.sub_zero] at elsewhere
    rw [answerAt_behind, answerAt_start, elsewhere, telling_onto, answer_onto]
  · intro first token rest split ends other
    rw [answerAt_start] at ends ⊢
    rw [answerAt_start]
    obtain ⟨rfl, rfl⟩ := leaves_ends leaves (endsAt_told ends) (consumed.symm.trans split)
    rw [again 0 (token :: other) rfl, telling_onto, answer_onto]
    exact Answer.shift_zero _
  · intro tree next answered
    rw [answerAt_behind] at answered
    rcases read : telling (level.procedure limit (limit - depth).toNat budget ⟨before.length, tokens⟩) with
      fault | ⟨found, place⟩
    · rw [read] at answered
      cases answered
    · rw [read] at answered
      cases answered
      have passes := procedure_passes ((telling_eq_ok _ _).mp read)
      rw [List.length_append, Int.natCast_add]
      exact passes

theorem answerAt_local_negatedGroup :
    (answerAt .unary (.ofStack .ofCommand) 2 negatedGroup 0 0).EndsAt 6 ∧
    answerAt .unary (.ofStack .ofCommand) 2 (negatedGroup.take 7) 0 0 =
      answerAt .unary (.ofStack .ofCommand) 2 negatedGroup 0 0 ∧
    answerAt .unary (.ofStack .ofCommand) 2 (negatedGroup ++ negatedGroup) 8 0 = .ok (.negative
      (.binary .diff (.digit 8 ⟨1, 3⟩) (.digit 3 ⟨1, 5⟩) ⟨1, 4⟩) ⟨1, 1⟩, 14) ∧
    (negatedGroup.length < (14 : Int) ∧ (14 : Int) ≤ (negatedGroup ++ negatedGroup).length) ∧
    answerAt .unary (.ofStack .ofCommand) 2 negatedGroup 0 1 = .error (.grammar (.tooDeep 2 1)) ∧
    answerAt .unary (.ofStack .ofCommand) 2 (negatedGroup.take 2) 0 1 =
      answerAt .unary (.ofStack .ofCommand) 2 negatedGroup 0 1 := by
  have ends : (answerAt .unary (.ofStack .ofCommand) 2 negatedGroup 0 0).EndsAt 6 := rfl
  have refused : (answerAt .unary (.ofStack .ofCommand) 2 negatedGroup 0 1).EndsAt 1 := rfl
  obtain ⟨moved, kept, inside⟩ := answerAt_local .unary (.ofStack .ofCommand) 2 0 negatedGroup negatedGroup
  obtain ⟨_, kept_deep, _⟩ := answerAt_local .unary (.ofStack .ofCommand) 2 1 [] negatedGroup
  exact ⟨ends, kept (negatedGroup.take 6) _ _ rfl ends [], moved, inside _ 14 moved, rfl,
    kept_deep (negatedGroup.take 1) _ _ rfl refused []⟩

end DigitCalc.Grammar
