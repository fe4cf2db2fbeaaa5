import TapeLang.Proofs.Cli.FileRun
import TapeLang.Proofs.Cli.Turns
import TapeLang.Proofs.Machine.Origin
import TapeLang.Proofs.Session.Isolation

/-!
What gets past the front ends. Whatever the commands of loaded extensions raise, the prompt loop reports the
line that failed and goes on, and a program that fails makes the command line return one. There is one
exception: neither of them catches a bare fault.
-/

namespace TapeLang

theorem FailureReport.release_source (report : Option FailureReport) (world : World) :
    (release report world).2.source = world.source := by
  unfold release
  split
  · split <;> rfl
  · rfl

theorem Session.settle_outcome {session : Session} {ended : Ended} {fault : Fault}
    (fails : (session.settle ended).outcome = .error fault) : ended.fault = some fault := by
  unfold settle at fails
  cases left : ended.fault with
  | none =>
      rw [left] at fails
      cases fails
  | some other =>
      rw [left] at fails
      cases fails
      rfl

theorem Channel.steady_default : Channel.Steady {} := ⟨fun _ => rfl, fun _ => rfl⟩

namespace Cli

/-- The front end was left by a bare fault. If the listeners are calm, a bound command has raised it. -/
structure Outcome.Escapes (outcome : Outcome) (fault : Fault) : Prop where
  ending : outcome.ending = .uncaught fault
  bare : fault.Bare
  raised : (∀ listener ∈ outcome.host.services.listeners, listener.Calm) →
    ∃ spec ∈ outcome.host.services.commands.specs, spec.Raises fault

namespace Prompt

variable {fuel : Nat} {prompt : Prompt}

theorem feed_fault_origin {line : String} {fed : Fed} {fault : Fault}
    (feeds : prompt.feed fuel line = some fed) (fails : fed.outcome = .error fault) :
    fault.ofProgram = true ∧
      (fault.Bare → (∀ listener ∈ fed.world.host.services.listeners, listener.Calm) →
        ∃ spec ∈ fed.world.host.services.commands.specs, spec.Raises fault) := by
  cases parsed : parse (Text.encode line) Session.lineFile .command with
  | error cause =>
      rw [(Session.feed_of_refused parsed feeds).1] at fails
      cases fails
      exact ⟨rfl, False.elim⟩
  | ok fragment =>
      obtain ⟨report, ended, ran, rfl⟩ := Session.feed_of_accepted parsed feeds
      rw [(Session.settle_keeps _ ended).2.1]
      apply Run.run_fault_origin ?_ ?_ ran (Session.settle_outcome fails)
      · exact ⟨Channel.steady_default, rfl⟩
      · rw [Session.entering, FailureReport.release_source]
        trivial

theorem Stops.returns_or_escapes {outcome : Outcome} (stops : Stops fuel prompt outcome) :
    outcome.ending = .returned 0 ∨ ∃ fault, outcome.Escapes fault := by
  cases stops with
  | ended typed => exact .inl rfl
  | left typed exits => exact .inl rfl
  | @escaped line lines fed fault typed source feeds fails foreign unexpected =>
      obtain ⟨ours, raised⟩ := feed_fault_origin feeds fails
      have bare : fault.Bare := by
        cases fault with
        | program text => trivial
        | badSyntax cause => exact absurd rfl (foreign cause)
        | runtime cause => exact absurd rfl (unexpected cause)
        | _ => cases ours
      exact .inr ⟨fault, rfl, bare, raised bare⟩

end Prompt

def programWorld (host : Host) (invocation : Invocation) (text : ProgramText)
    (program : List Instruction) (input : Bytes) : World :=
  { startWorld host.files text.file invocation.verbose program input with host := host.bindBuiltins }

section Program

variable {fuel : Nat} {invocation : Invocation} {text : ProgramText} {input : Bytes} {host : Host}

theorem run_program_accepted {program : List Instruction}
    (accepted : parse text.source text.file (if invocation.commands then .command else .normal) =
      .ok program) :
    runProgram fuel invocation text input host =
      (Run.run fuel (.direct {}) (programWorld host invocation text program input)).map
        (reportRun invocation) := by
  unfold runProgram
  rw [accepted]
  rfl

theorem report_run_services (invocation : Invocation) (ended : Ended) :
    (reportRun invocation ended).host.services = ended.world.host.services := by
  unfold reportRun
  cases ended.fault with
  | none => rfl
  | some fault =>
      cases fault with
      | runtime cause =>
          dsimp only
          split <;> rfl
      | _ => rfl

/-- A run that fails is reported, unless it fails with a bare fault, which escapes. -/
theorem report_run_failed {program : List Instruction} {ended : Ended} {fault : Fault}
    (ran : Run.run fuel (.direct {}) (programWorld host invocation text program input) = some ended)
    (failed : ended.fault = some fault) :
    (¬fault.Bare → (reportRun invocation ended).ending = .returned 1) ∧
      (fault.Bare → (reportRun invocation ended).Escapes fault) := by
  have steady : (Outlet.direct {}).Steady := Channel.steady_default
  obtain ⟨ours, raised⟩ := Run.run_fault_origin steady (Source.regular_of_bytes input) ran failed
  constructor
  · intro plain
    unfold reportRun
    rw [failed]
    cases fault with
    | program text => exact absurd trivial plain
    | badSyntax cause => rfl
    | runtime cause => rfl
    | _ => cases ours
  · intro bare
    refine ⟨?_, bare, ?_⟩
    · unfold reportRun
      rw [failed]
      cases fault with
      | program text => rfl
      | _ => exact bare.elim
    · rw [report_run_services]
      exact raised bare

end Program

def Invocation.mode (invocation : Invocation) : Mode := if invocation.commands then .command else .normal

/-- With any extensions, the prompt loop comes to an outcome by turns, each of which reports the line that it
takes if that fails, and returns zero when it is left or no line is left. A command line that runs a program
returns one if the program cannot be parsed or its run fails, and zero otherwise. Only a bare fault escapes
from either of them. -/
theorem only_bare_faults_escape (fuel : Nat) (files : FileSystem) (services : Services) :
    (∀ (verbose : Bool) (typed : List String),
      (Prompt.start fuel verbose { files, services } typed = none ↔
        ∃ turns last,
          Prompt.Path fuel verbose (Prompt.opening verbose { files, services } typed) turns last ∧
          Prompt.Starves fuel last) ∧
      ∀ outcome, Prompt.start fuel verbose { files, services } typed = some outcome →
        ∃ turns last,
          Prompt.Path fuel verbose (Prompt.opening verbose { files, services } typed) turns last ∧
          Prompt.Stops fuel last outcome ∧
          (outcome.ending = .returned 0 ∨ ∃ fault, outcome.Escapes fault)) ∧
    ∀ (arguments : List String) (invocation : Invocation) (program : String) (text : ProgramText)
        (input : Bytes),
      readArguments arguments = .ok invocation → invocation.interactive = false →
      Extension.loadAll files {} invocation.extensions = .ok services →
      invocation.program = some program → programText files invocation.literal program = .ok text →
      (∀ fault, parse text.source text.file invocation.mode = .error fault →
        ∃ outcome, run fuel arguments input files = some outcome ∧ outcome.ending = .returned 1 ∧
          outcome.host.diagnostics = #["ParseError: " ++ fault.message]) ∧
      ∀ parsed, parse text.source text.file invocation.mode = .ok parsed →
        (run fuel arguments input files = none ↔
          Run.run fuel (.direct {}) (programWorld { files, services } invocation text parsed input) =
            none) ∧
        ∀ ended, Run.run fuel (.direct {})
            (programWorld { files, services } invocation text parsed input) = some ended →
          ∃ outcome, run fuel arguments input files = some outcome ∧
            (ended.fault = none → outcome.ending = .returned 0) ∧
            ∀ fault, ended.fault = some fault →
              (¬fault.Bare → outcome.ending = .returned 1) ∧ (fault.Bare → outcome.Escapes fault) := by
  refine ⟨?_, ?_⟩
  · intro verbose typed
    refine ⟨Prompt.start_eq_none_iff, ?_⟩
    intro outcome ends
    obtain ⟨turns, last, path, stops⟩ := Prompt.start_eq_some_iff.mp ends
    exact ⟨turns, last, path, stops, stops.returns_or_escapes⟩
  · intro arguments invocation program text input read batch loaded named found
    rw [run_of_program read batch loaded named found]
    constructor
    · intro fault refused
      rw [run_program_refused refused]
      exact ⟨_, rfl, rfl, rfl⟩
    · intro parsed accepted
      rw [run_program_accepted accepted]
      refine ⟨Option.map_eq_none_iff, ?_⟩
      intro ended ran
      rw [ran]
      refine ⟨_, rfl, ?_, fun fault failed => report_run_failed ran failed⟩
      intro completes
      unfold reportRun
      rw [completes]

def faultyExtension (fault : Fault) : FileSystem :=
  .uniform (.extension {
    name := some (.str "e")
    registrar := some (.steps [.command "boom" 0 none "" [.fail fault]]) })

/-- A command that raises a fault of a value, a line that cannot be parsed, and a blank one: the loop reports
two lines and goes on to the word that ends it. A program with that command makes the command line return
one. -/
theorem failing_command_survived :
    ∃ (files : FileSystem) (services : Services) (outcome program : Outcome)
        (turns : List (String × Option Fault)) (last : Prompt),
      Extension.loadAll files {} ["e.py"] = .ok services ∧
      Prompt.start 9 false { files, services } ["#boom;+", "]", " ", "+.", " exit", "."] =
        some outcome ∧
      outcome.host.diagnostics.size = 2 ∧ outcome.ending = .returned 0 ∧
      Prompt.Path 9 false (Prompt.opening false { files, services } ["#boom;+", "]", " ", "+.", " exit", "."])
        turns last ∧
      Prompt.Stops 9 last outcome ∧
      run 9 ["--ext", "e.py", "--commands", "-source", "#boom;"] [] files = some program ∧
      program.ending = .returned 1 := by
  let files := faultyExtension (.value (.described "bad"))
  let services := Extension.withAll files {} ["e.py"]
  let typed := ["#boom;+", "]", " ", "+.", " exit", "."]
  let invocation : Invocation :=
    { program := some "#boom;", literal := true, commands := true, extensions := ["e.py"] }
  have loaded : Extension.loadAll files {} ["e.py"] = .ok services :=
    Extension.load_all_eq_with_all (by decide +kernel)
  have read : readArguments ["--ext", "e.py", "--commands", "-source", "#boom;"] = .ok invocation := by
    decide +kernel
  obtain ⟨prompts, runs⟩ := only_bare_faults_escape 9 files services
  obtain ⟨-, ends⟩ := prompts false typed
  have shown : (Prompt.start 9 false { files, services } typed).map
      (fun outcome => (outcome.host.diagnostics.size, outcome.ending)) = some (2, .returned 0) := by
    decide +kernel
  obtain ⟨outcome, started, seen⟩ := Option.map_eq_some_iff.mp shown
  simp only [Prod.mk.injEq] at seen
  obtain ⟨turns, last, path, stops, -⟩ := ends outcome started
  have parsed : parse (Text.encode "#boom;") "<string>" .command = .ok [.command "boom"] := by
    apply parse_eq_ok_of_some
    decide +kernel
  obtain ⟨-, accepts⟩ :=
    runs _ invocation "#boom;" ⟨Text.encode "#boom;", "<string>"⟩ [] read rfl loaded rfl rfl
  obtain ⟨-, reports⟩ := accepts _ parsed
  have raised : (Run.run 9 (.direct {}) (programWorld { files, services } invocation
      ⟨Text.encode "#boom;", "<string>"⟩ [.command "boom"] [])).map (·.fault) =
      some (some (.runtime
        { cause := .unexpected "bad", ip := some 0, rule := some "internal", step := some 1 })) := by
    decide +kernel
  obtain ⟨ended, ran, failed⟩ := Option.map_eq_some_iff.mp raised
  obtain ⟨program, ends, -, fails⟩ := reports ended ran
  exact ⟨files, services, outcome, program, turns, last, loaded, started, seen.1, seen.2, path, stops, ends,
    (fails _ failed).1 id⟩

/-- A command that raises a bare fault: it leaves the prompt loop before the next line, and it leaves the
command line. -/
theorem bare_fault_leaves_front_ends :
    ∃ (files : FileSystem) (services : Services) (outcome program : Outcome),
      Extension.loadAll files {} ["e.py"] = .ok services ∧ services.listeners = [] ∧
      Prompt.start 9 false { files, services } ["#boom;", "+"] = some outcome ∧
      outcome.ending = .uncaught (.program "bad") ∧
      run 9 ["--ext", "e.py", "--commands", "-source", "#boom;"] [] files = some program ∧
      program.ending = .uncaught (.program "bad") := by
  let files := faultyExtension (.program "bad")
  let services := Extension.withAll files {} ["e.py"]
  have loaded : Extension.loadAll files {} ["e.py"] = .ok services :=
    Extension.load_all_eq_with_all (by decide +kernel)
  have prompts : (Prompt.start 9 false { files, services } ["#boom;", "+"]).map (·.ending) =
      some (.uncaught (.program "bad")) := by
    decide +kernel
  have runs : (run 9 ["--ext", "e.py", "--commands", "-source", "#boom;"] [] files).map (·.ending) =
      some (.uncaught (.program "bad")) := by
    decide +kernel
  obtain ⟨outcome, started, left⟩ := Option.map_eq_some_iff.mp prompts
  obtain ⟨program, ran, leaves⟩ := Option.map_eq_some_iff.mp runs
  exact ⟨files, services, outcome, program, loaded, rfl, started, left, ran, leaves⟩

end Cli

end TapeLang
