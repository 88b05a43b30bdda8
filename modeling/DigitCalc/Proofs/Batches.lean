import DigitCalc.Batch
import DigitCalc.Proofs.Encoding
import DigitCalc.Proofs.SourceLines
import Mathlib.Data.List.Forall2

/-! A batch from its first expression to its last. Each expression has an account of its own, whatever the accounts
before it say; only a value that is too long to be written ends a batch early. -/
namespace DigitCalc

def Printout.together (printed : List Printout) : Printout :=
  printed.foldr append empty

theorem Printout.append_assoc (first second third : Printout) :
    (first.append second).append third = first.append (second.append third) := by
  simp [append, String.append_assoc]

namespace Batch
variable {stack : Stack} {display : Display} {limit : Int} {files : Files} {origin : Origin}

theorem isExpressionFile_iff (path : String) :
    isExpressionFile path = true ↔ suffix.toList <:+ path.toList := by
  rw [isExpressionFile, String.endsWith_eq_endsWith_toSlice, String.Slice.endsWith_string_iff, String.copy_toSlice]

def failures (stack : Stack) (limit : Int) (sources : List String) : Nat :=
  sources.countP fun source => !(calculate stack source limit).isOk

def banner (display : Display) (count : Nat) : String :=
  if display.pretty then rule ++ "\narith (" ++ toString count ++ " expression(s))\n" ++ rule ++ "\n" else ""

def tally (display : Display) (failures count : Nat) : String :=
  if display.pretty && failures ≠ 0 then "(" ++ toString failures ++ " of " ++ toString count ++ " failed)\n" else ""

theorem reportAll_reported {source : String} {rest : List String} {printed : Printout} {hasValue : Bool}
    (reported : Report.run stack display limit source = ⟨printed, .ok hasValue⟩) :
    reportAll stack display limit (source :: rest) = ⟨printed.append (reportAll stack display limit rest).printed,
      (reportAll stack display limit rest).ending.map (· + if hasValue then 0 else 1)⟩ := by
  rw [reportAll, reported, Run.bind_ok]
  rcases reportAll stack display limit rest with ⟨later, failure | count⟩
  · rfl
  · cases hasValue <;> simp [Run.bind_ok, Run.pure_eq, Except.map]

theorem reportAll_cons {source : String} {rest : List String} {printed : Printout}
    (reported : Report.run stack display limit source = ⟨printed, .ok (calculate stack source limit).isOk⟩) :
    reportAll stack display limit (source :: rest) = ⟨printed.append (reportAll stack display limit rest).printed,
      (reportAll stack display limit rest).ending.map (· + failures stack limit [source])⟩ := by
  rw [reportAll_reported reported]
  cases valued : (calculate stack source limit).isOk <;> simp [failures, valued]

theorem reportAll_stopped {source : String} {rest : List String} {printed : Printout} {failure : Failure}
    (stopped : Report.run stack display limit source = ⟨printed, .error failure⟩) :
    reportAll stack display limit (source :: rest) = ⟨printed, .error failure⟩ := by
  rw [reportAll, stopped, Run.bind_error]

/-- Accounts of all the expressions that come first, and then whatever the others come to. -/
theorem reportAll_after (positive : 1 ≤ limit) {earlier : List String}
    (fits : ∀ source ∈ earlier, Report.Fits stack display limit source)
    (writable : ∀ source ∈ earlier, Report.Writable stack limit source) (rest : List String) :
    ∃ accounts, List.Forall₂ (Report.Account stack display limit) earlier accounts ∧
      reportAll stack display limit (earlier ++ rest) =
        ⟨(Printout.together accounts).append (reportAll stack display limit rest).printed,
          (reportAll stack display limit rest).ending.map (· + failures stack limit earlier)⟩ := by
  -- Induction on the expressions that have accounts; nothing is said of the others.
  induction earlier with
  | nil =>
      refine ⟨[], .nil, ?_⟩
      change reportAll stack display limit rest = ⟨Printout.empty.append _, _⟩
      rw [Printout.empty_append]
      rcases reportAll stack display limit rest with ⟨printed, failure | count⟩ <;> rfl
  | cons source earlier ih =>
      obtain ⟨accounts, told, reports⟩ := ih (fun later member => fits later (.tail _ member))
        (fun later member => writable later (.tail _ member))
      obtain ⟨printed, account, reported⟩ :=
        Report.run_account positive (fits source (.head _)) (writable source (.head _))
      refine ⟨printed :: accounts, .cons account told, ?_⟩
      rw [List.cons_append, reportAll_cons reported, reports]
      have shared : failures stack limit (source :: earlier) =
          failures stack limit earlier + failures stack limit [source] := by
        simp [failures, List.countP_cons]
      rw [shared]
      change _ = (⟨(printed.append (Printout.together accounts)).append _, _⟩ : Run Nat)
      rw [Printout.append_assoc]
      rcases reportAll stack display limit rest with ⟨later, failure | count⟩
      · rfl
      · simp [Except.map, Nat.add_assoc]

theorem reportAll_whole (positive : 1 ≤ limit) {sources : List String}
    (fits : ∀ source ∈ sources, Report.Fits stack display limit source)
    (writable : ∀ source ∈ sources, Report.Writable stack limit source) :
    ∃ accounts, List.Forall₂ (Report.Account stack display limit) sources accounts ∧
      reportAll stack display limit sources = ⟨Printout.together accounts, .ok (failures stack limit sources)⟩ := by
  obtain ⟨accounts, told, reported⟩ := reportAll_after positive fits writable []
  refine ⟨accounts, told, ?_⟩
  rw [List.append_nil] at reported
  rw [reported]
  change (⟨(Printout.together accounts).append .empty, .ok (0 + failures stack limit sources)⟩ : Run Nat) = _
  rw [Printout.append_empty, Nat.zero_add]

theorem reportAll_broken (positive : 1 ≤ limit) {earlier later : List String} {source : String}
    (fits : ∀ before ∈ earlier ++ [source], Report.Fits stack display limit before)
    (writable : ∀ before ∈ earlier, Report.Writable stack limit before)
    (unwritable : ¬ Report.Writable stack limit source) :
    ∃ accounts, List.Forall₂ (Report.Account stack display limit) earlier accounts ∧
      reportAll stack display limit (earlier ++ source :: later) =
        ⟨⟨(Printout.together accounts).out ++ Report.forms stack display limit source,
          (Printout.together accounts).err⟩,
          .error .longNumber⟩ := by
  obtain ⟨value, valued, long⟩ : ∃ value, calculate stack source limit = .ok value ∧ ¬ Text.Numeral.Short value := by
    simpa [Report.Writable] using unwritable
  have stops := Report.run_long (fits source (by simp)) valued long
  obtain ⟨accounts, told, reported⟩ :=
    reportAll_after positive (fun before member => fits before (by simp [member])) writable (source :: later)
  refine ⟨accounts, told, ?_⟩
  rw [reported, reportAll_stopped stops]
  simp [Printout.append, Except.map]

theorem run_counted {sources : List String} {printed : Printout} {count : Nat}
    (gathered : gather files origin = .ok sources)
    (reported : reportAll stack display limit sources = ⟨printed, .ok count⟩) :
    run stack display limit files origin =
      ⟨⟨banner display sources.length ++ printed.out ++ tally display count sources.length, printed.err⟩,
        .ok (if count = 0 then 0 else 1)⟩ := by
  rw [run, gathered, Run.lift_ok_bind]
  simp only [Run.sayIf_eq, Run.bind_ok, reported, Run.pure_eq, Printout.append_empty]
  simp [Printout.append, banner, tally, String.append_assoc]

theorem run_stopped {sources : List String} {printed : Printout} {failure : Failure}
    (gathered : gather files origin = .ok sources)
    (reported : reportAll stack display limit sources = ⟨printed, .error failure⟩) :
    run stack display limit files origin =
      ⟨⟨banner display sources.length ++ printed.out, printed.err⟩, .error failure⟩ := by
  rw [run, gathered, Run.lift_ok_bind]
  simp only [Run.sayIf_eq, Run.bind_ok, reported, Run.bind_error]
  simp [Printout.append, banner, String.append_assoc]

section Held
variable {path text : String} {bytes : List UInt8}

theorem expressionsIn_held (namable : isNamable path = true) (held : files path = .ok bytes)
    (decoded : Text.Utf8.read bytes = .ok text) : expressionsIn files path = .ok (expressions text) := by
  simp [expressionsIn, readFile, namable, held, decoded, Except.mapError, Except.map]

theorem gather_held (named : isExpressionFile path = true) (namable : isNamable path = true)
    (held : files path = .ok bytes) (decoded : Text.Utf8.read bytes = .ok text) :
    gather files (.file path) = .ok (expressions text) := by
  rw [gather, if_pos named, expressionsIn_held namable held decoded]

end Held

/-- A file of expressions is processed to its end, each expression with an account of its own, unless a value is too
long to be written: there the batch breaks off, behind the accounts of the expressions before. -/
theorem run_file {path : String} {bytes : List UInt8} {text : String} (positive : 1 ≤ limit)
    (plain : display.json = false) (named : isExpressionFile path = true) (namable : isNamable path = true)
    (held : files path = .ok bytes) (decoded : Text.Utf8.read bytes = .ok text) :
    expressionsIn files path = .ok (expressions text) ∧
    ((∀ source ∈ expressions text, Report.Writable stack limit source) →
      ∃ accounts, List.Forall₂ (Report.Account stack display limit) (expressions text) accounts ∧
        run stack display limit files (.file path) =
          ⟨⟨banner display (expressions text).length ++ (Printout.together accounts).out ++
              tally display (failures stack limit (expressions text)) (expressions text).length,
            (Printout.together accounts).err⟩,
          .ok (if failures stack limit (expressions text) = 0 then 0 else 1)⟩) ∧
    ∀ earlier source later, expressions text = earlier ++ source :: later →
      (∀ before ∈ earlier, Report.Writable stack limit before) → ¬ Report.Writable stack limit source →
      ∃ accounts, List.Forall₂ (Report.Account stack display limit) earlier accounts ∧
        run stack display limit files (.file path) =
          ⟨⟨banner display (expressions text).length ++ ((Printout.together accounts).out ++
              Report.forms stack display limit source),
            (Printout.together accounts).err⟩,
          .error .longNumber⟩ := by
  have read := expressionsIn_held namable held decoded
  have gathered := gather_held named namable held decoded
  have fits (source : String) : Report.Fits stack display limit source := Report.fits_unwanted plain
  refine ⟨read, ?_, ?_⟩
  · intro writable
    obtain ⟨accounts, told, reported⟩ := reportAll_whole positive (fun source _ => fits source) writable
    exact ⟨accounts, told, run_counted gathered reported⟩
  · intro earlier source later split writable unwritable
    obtain ⟨accounts, told, reported⟩ :=
      @reportAll_broken stack display limit positive earlier later source (fun before _ => fits before) writable
        unwritable
    rw [← split] at reported
    exact ⟨accounts, told, run_stopped gathered reported⟩

def oneFailing : List UInt8 := [0x32, 0x2a, 0x33, 0xa, 0x31, 0x2f, 0x30, 0xa]

theorem run_file_oneFailing :
    isExpressionFile "sums.arith" = true ∧ isNamable "sums.arith" = true ∧
    Text.Utf8.read oneFailing = .ok "2*3\n1/0\n" ∧
    ∃ accounts, List.Forall₂ (Report.Account .ofCommand ⟨false, false, false, true⟩ 100) ["2*3", "1/0"] accounts ∧
      run .ofCommand ⟨false, false, false, true⟩ 100 (fun _ => .ok oneFailing) (.file "sums.arith") =
        ⟨⟨rule ++ "\narith (2 expression(s))\n" ++ rule ++ "\n" ++ (Printout.together accounts).out ++
            "(1 of 2 failed)\n", (Printout.together accounts).err⟩, .ok 1⟩ := by
  have named : isExpressionFile "sums.arith" = true := (isExpressionFile_iff _).mpr (by decide)
  have namable : isNamable "sums.arith" = true := by decide
  have decoded : Text.Utf8.read oneFailing = .ok "2*3\n1/0\n" := by decide
  obtain ⟨valued, divided⟩ := calculate_samples .ofCommand
  have listed : expressions "2*3\n1/0\n" = ["2*3", "1/0"] := by decide
  obtain ⟨_, whole, _⟩ := @run_file .ofCommand ⟨false, false, false, true⟩ 100 (fun _ => .ok oneFailing) "sums.arith"
    oneFailing
    _ (by decide) rfl named namable rfl decoded
  rw [listed] at whole
  obtain ⟨accounts, told, ran⟩ := whole Report.samples_writable
  have counted : failures .ofCommand 100 ["2*3", "1/0"] = 1 := by
    simp [failures, valued, divided, Except.isOk, Except.toBool]
  rw [counted] at ran
  exact ⟨named, namable, decoded, accounts, told, ran⟩

/-! A file with a value that is too long. -/

def longFile : String :=
  longProduct ++ ("\n" ++ "1+1\n")

theorem longFile_ascii : ∀ c ∈ longFile.toList, c.toNat < 128 := by
  rw [longFile, String.toList_append]
  have small : ∀ c ∈ Reader.alphabet, c.toNat < 128 := List.all_iff_forall_prop.mp (by decide)
  have last : ∀ c ∈ ("\n" ++ "1+1\n").toList, c.toNat < 128 := List.all_iff_forall_prop.mp (by decide)
  exact List.forall_mem_append.mpr ⟨fun c member => small c (longProduct_lexical c member), last⟩

theorem longFile_expressions : expressions longFile = [longProduct, "1+1"] := by
  have last : InputLine.ofText "1+1\n" = ["1+1"] := by decide
  have loud := InputLine.lexical_loud longProduct_lexical longProduct_plain
  have sum : InputLine.isSilent "1+1" = false := by decide
  rw [longFile, expressions, InputLine.ofText_plain longProduct_plain, last]
  simp [loud, sum]

theorem run_file_longProduct : Text.Utf8.read (Text.Utf8.ascii longFile) = .ok longFile ∧
    expressions longFile = [longProduct, "1+1"] ∧
    run .ofCommand .plain 100 (fun _ => .ok (Text.Utf8.ascii longFile)) (.file "big.arith") =
      ⟨.empty, .error .longNumber⟩ := by
  have read := Text.Utf8.read_ascii longFile_ascii
  refine ⟨read, longFile_expressions, ?_⟩
  have named : isExpressionFile "big.arith" = true := (isExpressionFile_iff _).mpr (by decide)
  have namable : isNamable "big.arith" = true := by decide
  have gathered : gather (fun _ => .ok (Text.Utf8.ascii longFile)) (.file "big.arith") = .ok [longProduct, "1+1"] := by
    rw [gather, if_pos named, expressionsIn, readFile, if_pos namable]
    change (Except.mapError _ (Text.Utf8.read _)).map expressions = _
    rw [read]
    exact congrArg Except.ok longFile_expressions
  obtain ⟨value, valued, long⟩ := @longProduct_value .ofCommand 100 (by decide) (by decide)
  have reported := @reportAll_stopped .ofCommand .plain 100 _ ["1+1"] _ _
    (Report.run_long (Report.fits_unwanted rfl) valued long)
  rw [run_stopped gathered reported, Report.forms_plain]
  rfl

end Batch

end DigitCalc
