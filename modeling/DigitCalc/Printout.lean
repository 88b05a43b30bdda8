import DigitCalc.Failure

/-! What a command prints, and how it ends. Printing is kept when a later step fails. -/
namespace DigitCalc

structure Printout where
  out : String
  err : String
  deriving DecidableEq, Repr

namespace Printout

def empty : Printout := ⟨"", ""⟩

def append (first later : Printout) : Printout :=
  ⟨first.out ++ later.out, first.err ++ later.err⟩

@[simp]
theorem empty_append (printed : Printout) : empty.append printed = printed := by
  simp [append, empty]

@[simp]
theorem append_empty (printed : Printout) : printed.append empty = printed := by
  simp [append, empty]

end Printout

structure Run (α : Type) where
  printed : Printout
  ending : Except Failure α

namespace Run
variable {α β : Type}

def done (value : α) : Run α := ⟨.empty, .ok value⟩

def andThen (first : Run α) (later : α → Run β) : Run β :=
  match first.ending with
  | .error failure => ⟨first.printed, .error failure⟩
  | .ok value =>
      let next := later value
      ⟨first.printed.append next.printed, next.ending⟩

instance : Monad Run where
  pure := done
  bind := andThen

def lift (outcome : Except Failure α) : Run α := ⟨.empty, outcome⟩

def write (text : String) : Run Unit := ⟨⟨text, ""⟩, .ok ()⟩

def say (line : String) : Run Unit := write (line ++ "\n")

def complain (line : String) : Run Unit := ⟨⟨"", line ++ "\n"⟩, .ok ()⟩

/-- A line that is not wanted is not put together either. -/
@[macro_inline]
def sayIf (wanted : Bool) (line : String) : Run Unit :=
  if wanted then say line else done ()

/-- Goes on whatever the ending was, with what was printed before it. -/
def attempt (run : Run α) : Run (Except Failure α) := ⟨run.printed, .ok run.ending⟩

/-! What a run prints is followed by what comes after it, unless it fails. -/

theorem bind_ok (printed : Printout) (value : α) (later : α → Run β) :
    (⟨printed, .ok value⟩ : Run α) >>= later = ⟨printed.append (later value).printed, (later value).ending⟩ := by
  rfl

theorem bind_error (printed : Printout) (failure : Failure) (later : α → Run β) :
    (⟨printed, .error failure⟩ : Run α) >>= later = ⟨printed, .error failure⟩ := by
  rfl

theorem pure_eq (value : α) : (pure value : Run α) = ⟨.empty, .ok value⟩ := by
  rfl

theorem say_eq (line : String) : say line = ⟨⟨line ++ "\n", ""⟩, .ok ()⟩ := by
  rfl

theorem complain_eq (line : String) : complain line = ⟨⟨"", line ++ "\n"⟩, .ok ()⟩ := by
  rfl

theorem lift_ok_bind (value : α) (later : α → Run β) : lift (.ok value) >>= later = later value := by
  change (⟨Printout.empty, .ok value⟩ : Run α) >>= later = later value
  rw [bind_ok, Printout.empty_append]

theorem lift_error_bind (failure : Failure) (later : α → Run β) :
    lift (.error failure) >>= later = lift (.error failure) := by
  rfl

theorem sayIf_eq (wanted : Bool) (line : String) :
    sayIf wanted line = ⟨⟨if wanted then line ++ "\n" else "", ""⟩, .ok ()⟩ := by
  cases wanted <;> rfl

theorem attempt_bind (run : Run α) (later : Except Failure α → Run β) :
    run.attempt >>= later = ⟨run.printed.append (later run.ending).printed, (later run.ending).ending⟩ := by
  rfl

end Run

end DigitCalc
