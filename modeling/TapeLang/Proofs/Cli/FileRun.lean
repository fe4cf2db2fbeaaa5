import TapeLang.Cli.Front
import TapeLang.Proofs.Cli.Arguments
import TapeLang.Proofs.Machine.Console

/-!
Running a program from the command line. With options that only say how it is run, a command line is the
parse of one program text and the run of one machine. It returns nothing but zero and one, zero just when
the program is parsed and its machine reaches the end, and it shows what the machine has written.
-/

namespace TapeLang.Cli

def modeOf (words : List String) : Mode := if words.contains "--commands" then .command else .normal

def isVerbose (words : List String) : Bool := words.any ["-verbose", "--verbose"].contains

def startWorld (files : FileSystem) (name : String) (verbose : Bool) (program : List Instruction)
    (input : Bytes) : World :=
  Setup.world { file := files.shownName name, verbose, program, source := .ofBytes input, files }

section Stages

variable {fuel : Nat} {files : FileSystem} {input : Bytes} {invocation : Invocation}

theorem run_program_refused {host : Host} {text : ProgramText} {fault : SyntaxFault}
    (refused : parse text.source text.file (if invocation.commands then .command else .normal) =
      .error fault) :
    runProgram fuel invocation text input host =
      some { host := complain host ("ParseError: " ++ fault.message), ending := .returned 1 } := by
  unfold runProgram
  rw [refused]

theorem run_program_parsed {text : ProgramText} {program : List Instruction}
    (accepted : parse text.source text.file (if invocation.commands then .command else .normal) =
      .ok program) :
    runProgram fuel invocation text input { files } =
      (Run.run fuel (.direct {}) (startWorld files text.file invocation.verbose program input)).map
        (reportRun invocation) := by
  unfold runProgram
  rw [accepted]
  rfl

theorem run_of_program {arguments : List String} {program : String} {text : ProgramText}
    {services : Services} (read : readArguments arguments = .ok invocation)
    (batch : invocation.interactive = false)
    (loaded : Extension.loadAll files {} invocation.extensions = .ok services)
    (named : invocation.program = some program)
    (found : programText files invocation.literal program = .ok text) :
    run fuel arguments input files = runProgram fuel invocation text input { files, services } := by
  unfold run
  rw [read]
  dsimp only
  rw [loaded]
  dsimp only
  unfold invoke
  rw [batch, named]
  simp only [Bool.false_eq_true, if_false, found]

theorem not_literal {words : List String} (options : ∀ word ∈ words, word ∈ runSpellings) :
    words.any literalSpellings.contains = false := by
  rw [List.any_eq_false]
  intro word found literal
  have option := options word found
  have spells : word ∈ literalSpellings := by simpa using literal
  simp only [literalSpellings, List.mem_cons, List.not_mem_nil, or_false] at spells
  rcases spells with rfl | rfl <;> exact absurd option (by decide)

theorem run_file {file : String} {source : Bytes} {front back : List String}
    (named : file.toList.head? ≠ some '-') (readable : files.read file = .ok source)
    (options : ∀ word ∈ front ++ back, word ∈ runSpellings) :
    run fuel (front ++ file :: back) input files =
      runProgram fuel (Invocation.switched { program := some file } (front ++ back))
        { source, file } input { files } := by
  have known (word : String) (found : word ∈ front ++ back) : word ∈ literalSpellings ++ runSpellings :=
    List.mem_append_right _ (options word found)
  have read := read_arguments_of_plain (.inl named)
    (fun word found => known word (List.mem_append_left _ found))
    (fun word found => known word (List.mem_append_right _ found))
  apply run_of_program read rfl rfl rfl
  have literal : (Invocation.switched { program := some file } (front ++ back)).literal = false :=
    not_literal options
  rw [literal, programText, if_neg (by decide), readable]
  rfl

end Stages

section Reports

variable {fuel : Nat} {files : FileSystem} {name : String} {verbose : Bool} {input : Bytes}
  {program : List Instruction} {ended : Ended}

theorem start_world_console :
    ((startWorld files name verbose program input).attach (.direct {})).Console where
  builtin := Host.bind_builtins_builtin { files } rfl
  attached := ⟨{}, rfl, fun _ => rfl, fun _ => rfl⟩
  source := ⟨input, rfl⟩
  output := rfl
  complaints := rfl

theorem start_world_stands_behind (well : WellFormed program) :
    (startWorld files name verbose program input).StandsBehind [] where
  builtin := Host.bind_builtins_builtin { files } rfl
  wellFormed := well
  leads := List.nil_prefix
  ip := ⟨0, rfl, Nat.le_refl _, Nat.zero_le _⟩

/-- On streams that do not fail, a run fails just when it does not reach the end of the program. -/
theorem run_fault_eq_none_iff (well : WellFormed program)
    (ran : Run.run fuel (.direct {}) (startWorld files name verbose program input) = some ended) :
    ended.fault = none ↔ ended.world.machine.halted = true := by
  obtain ⟨-, halted, -, left⟩ := (start_world_stands_behind well).run .nil ran
  rw [halted]
  rcases left with same | ⟨fault, -, call, raises | raises⟩
  · rw [same]
  · cases raises
  · cases raises

theorem report_run (console : ended.Console) (invocation : Invocation) :
    (reportRun invocation ended).host.output = ended.world.machine.history.toList ∧
      (ended.fault = none →
        reportRun invocation ended = { host := ended.world.host, ending := .returned 0 }) ∧
      (ended.fault ≠ none → (reportRun invocation ended).ending = .returned 1) := by
  rw [← console.output]
  unfold reportRun
  cases failed : ended.fault with
  | none => exact ⟨rfl, fun _ => rfl, fun fails => absurd rfl fails⟩
  | some fault =>
      rcases console.fault fault failed with ⟨cause, rfl⟩ | ⟨cause, rfl⟩
      · exact ⟨rfl, nofun, fun _ => rfl⟩
      · refine ⟨?_, nofun, fun _ => rfl⟩
        dsimp only
        split <;> rfl

theorem error_text_of_silent (console : ended.Console) (skipped : ended.world.machine.skipped = #[]) :
    ended.world.host.errorText = "" := by
  have silent : ended.world.host.diagnostics = #[] := by
    rw [← Array.size_eq_zero_iff, console.complaints, skipped]
    rfl
  unfold Host.errorText
  rw [silent]
  rfl

end Reports

/-- A command line that runs a file ends just when the file cannot be parsed or its machine ends. Then it
returns zero if the file was parsed and the machine reached the end of its program, and one otherwise. It
shows what the machine has written and, if it returns zero and no file was skipped, makes no complaint. -/
theorem file_run_reports_success {files : FileSystem} {file : String} {source : Bytes}
    {front back : List String} (named : file.toList.head? ≠ some '-')
    (readable : files.read file = .ok source)
    (options : ∀ word ∈ front ++ back, word ∈ runSpellings) (fuel : Nat) (input : Bytes) :
    (run fuel (front ++ file :: back) input files = none ↔
      ∃ program, parse source file (modeOf (front ++ back)) = .ok program ∧
        Run.run fuel (.direct {})
          (startWorld files file (isVerbose (front ++ back)) program input) = none) ∧
    ∀ outcome, run fuel (front ++ file :: back) input files = some outcome →
      (outcome.ending = .returned 0 ∨ outcome.ending = .returned 1) ∧
      (outcome.ending = .returned 0 ↔
        ∃ program ended, parse source file (modeOf (front ++ back)) = .ok program ∧
          Run.run fuel (.direct {})
            (startWorld files file (isVerbose (front ++ back)) program input) = some ended ∧
          ended.world.machine.halted = true) ∧
      (∀ fault, parse source file (modeOf (front ++ back)) = .error fault → outcome.host.output = []) ∧
      ∀ program ended, parse source file (modeOf (front ++ back)) = .ok program →
        Run.run fuel (.direct {})
          (startWorld files file (isVerbose (front ++ back)) program input) = some ended →
        outcome.host.output = ended.world.machine.history.toList ∧
        (outcome.ending = .returned 0 → ended.world.machine.skipped = #[] →
          outcome.host.errorText = "") := by
  have mode : (if (Invocation.switched { program := some file } (front ++ back)).commands then
      Mode.command else .normal) = modeOf (front ++ back) := by
    simp [Invocation.switched, modeOf]
  have verbose : (Invocation.switched { program := some file } (front ++ back)).verbose =
      isVerbose (front ++ back) := by
    simp [Invocation.switched, isVerbose]
  rw [run_file named readable options]
  cases parsed : parse source file (modeOf (front ++ back)) with
  | error fault =>
      rw [run_program_refused (mode ▸ parsed)]
      refine ⟨by simp, ?_⟩
      intro outcome same
      cases same
      refine ⟨.inr rfl, by simp, fun _ _ => rfl, ?_⟩
      intro program ended accepted
      cases accepted
  | ok program =>
      rw [run_program_parsed (mode ▸ parsed), verbose, Option.map_eq_none_iff]
      refine ⟨by simp, ?_⟩
      intro outcome reports
      obtain ⟨ended, ran, rfl⟩ := Option.map_eq_some_iff.mp reports
      have console := Run.run_console start_world_console ran
      have completes := run_fault_eq_none_iff (.of_parse parsed) ran
      obtain ⟨output, succeeds, fails⟩ :=
        report_run console (Invocation.switched { program := some file } (front ++ back))
      -- the code is decided by the fault of the run, and the fault by whether the machine halted
      have code : (reportRun (Invocation.switched { program := some file } (front ++ back)) ended).ending =
          .returned 0 ↔ ended.fault = none := by
        constructor
        · intro zero
          apply Decidable.byContradiction
          intro failed
          cases (fails failed).symm.trans zero
        · intro passed
          rw [succeeds passed]
      refine ⟨?_, ?_, ?_, ?_⟩
      · by_cases failed : ended.fault = none
        · exact .inl (code.mpr failed)
        · exact .inr (fails failed)
      · rw [code, completes]
        simp [ran]
      · intro fault refused
        cases refused
      · intro other left same again
        cases same
        cases ran.symm.trans again
        refine ⟨output, ?_⟩
        intro zero skipped
        rw [succeeds (code.mp zero)]
        exact error_text_of_silent console skipped

/-- A path with a NUL character makes the machine fail, after it has written a byte. -/
theorem nul_path_reported_behind_output :
    ∃ (files : FileSystem) (outcome : Outcome),
      files.read "p" = .ok (Text.encode "+.#include \x00;") ∧
      run 9 ["-verbose", "p", "--commands"] [] files = some outcome ∧
      outcome.ending = .returned 1 ∧ outcome.host.output = [1] := by
  let files : FileSystem := .uniform (.bytes (Text.encode "+.#include \x00;"))
  have readable : files.read "p" = .ok (Text.encode "+.#include \x00;") := rfl
  have parsed : parse (Text.encode "+.#include \x00;") "p" (modeOf (["-verbose"] ++ ["--commands"])) =
      .ok [.counted .increment 1, .output, .command "include \x00"] := by
    apply parse_eq_ok_of_some
    decide +kernel
  have shown : (Run.run 9 (.direct {}) (startWorld files "p" (isVerbose (["-verbose"] ++ ["--commands"]))
      [.counted .increment 1, .output, .command "include \x00"] [])).map
      (fun ended => (ended.world.machine.halted, ended.world.machine.history.toList)) =
      some (false, [1]) := by
    decide +kernel
  obtain ⟨ended, ran, seen⟩ := Option.map_eq_some_iff.mp shown
  obtain ⟨halted, history⟩ := Prod.mk.inj seen
  obtain ⟨ends, reports⟩ :=
    @file_run_reports_success files "p" _ ["-verbose"] ["--commands"] (by decide) readable
      (by decide) 9 []
  cases done : run 9 (["-verbose"] ++ "p" :: ["--commands"]) [] files with
  | none =>
      obtain ⟨other, same, none⟩ := ends.mp done
      cases parsed.symm.trans same
      cases ran.symm.trans none
  | some outcome =>
      obtain ⟨code, zero, -, output⟩ := reports outcome done
      refine ⟨files, outcome, readable, done, ?_, ?_⟩
      · apply code.resolve_left
        intro succeeds
        obtain ⟨other, last, same, again, reached⟩ := zero.mp succeeds
        cases parsed.symm.trans same
        cases ran.symm.trans again
        cases halted.symm.trans reached
      · rw [(output _ ended parsed ran).1, history]

end TapeLang.Cli
