import TapeLang.Proofs.Machine.Tracing
import TapeLang.Proofs.Session.Diagnosis
import TapeLang.Proofs.Session.Verbosity

/-!
The step log of a session's machine as a trace. Whatever a client has done, the entries that a verbose run
logs can be executed again, as long as the program has no command but clears; and a machine that is not
verbose, used in the same way, comes to the same and logs the same but for the snapshots.
-/

namespace TapeLang

structure World.Traceable (world : World) : Prop extends world.StandsWithLog where
  tidy : world.Tidy
  numbered : world.machine.log.Numbered

namespace World.Traceable

variable {world : World}

theorem run (traceable : world.Traceable) {fuel : Nat} {outlet : Outlet} {ended : Ended}
    (ran : Run.run fuel outlet world = some ended) : ended.world.Traceable where
  toStandsWithLog := traceable.toStandsWithLog.run ran
  tidy := traceable.tidy.run traceable.toStandsBehind ran
  numbered :=
    (World.Numbers.run ⟨traceable.builtin, traceable.numbered⟩ traceable.toStandsBehind ran).numbered

theorem traced (traceable : world.Traceable) (outlet : Outlet) (verbose : world.machine.verbose = true)
    (clears : OnlyClears world.machine.program.toList) :
    (world.attach outlet).Traced outlet world.machine.program.toList where
  standing := traceable.toStandsBehind.attach outlet
  tidy := traceable.tidy.of_machine rfl rfl
  mutes := World.mutes_attach outlet world
  verbose := verbose
  clears := clears
  program := rfl

end World.Traceable

theorem Scene.Fresh.traceable {scene : Scene} (fresh : scene.Fresh) : scene.world.Traceable := by
  obtain ⟨file, verbose, tapeSize, created⟩ := fresh.created
  unfold Machine.create at created
  split at created
  case isTrue => cases created
  case isFalse positive =>
    have machine := (Except.ok.inj created).symm
    have stands : scene.world.machine.pointer = (0 : Nat) := by
      rw [machine]
      rfl
    refine { fresh.stands_with_log with tidy := .of_inside stands ?_ ?_, numbered := ?_ }
    · rw [machine]
      dsimp only [Tape.blank]
      omega
    · rw [machine]
      exact Tape.clean_blank _
    · rw [machine]
      exact StepLog.numbered_seed

theorem FailureReport.release_frame (report : Option FailureReport) (world : World) :
    ∃ attached, (release report world).2.machine = { world.machine with attached } := by
  unfold release
  split
  · split <;> exact ⟨none, rfl⟩
  · exact ⟨_, rfl⟩

namespace Operation

variable {operation : Operation} {scene after : Scene} {outlet : Outlet} {world : World} {fuel : Nat}

theorem launch_frame (launched : operation.launch scene = some (outlet, world)) :
    ∃ program attached, world.machine = { scene.world.machine with program, attached } := by
  rcases launch_cases launched with
    ⟨line, input, sink, fragment, rfl, accepted, rfl, rfl⟩ | ⟨input, rfl, rfl⟩
  · obtain ⟨attached, machine⟩ := FailureReport.release_frame scene.session.report
      { scene.world with source := input, machine := scene.world.machine.append fragment }
    exact ⟨_, attached, machine⟩
  · obtain ⟨attached, machine⟩ :=
      FailureReport.release_frame scene.session.report { scene.world with source := input }
    exact ⟨_, attached, machine⟩

theorem traceable_launch (traceable : scene.world.Traceable)
    (launched : operation.launch scene = some (outlet, world)) : world.Traceable := by
  obtain ⟨program, attached, machine⟩ := launch_frame launched
  refine { stands_with_log_launch traceable.toStandsWithLog launched with tidy := ?_, numbered := ?_ }
  · exact traceable.tidy.of_machine (by rw [machine]) (by rw [machine])
  · rw [machine]
    exact traceable.numbered

theorem traceable_perform (traceable : scene.world.Traceable)
    (performed : operation.perform fuel scene = some after) : after.world.Traceable := by
  have standing := stands_with_log_perform traceable.toStandsWithLog performed
  cases launched : operation.launch scene with
  | some start =>
      obtain ⟨report, runs⟩ := perform_of_launch launched
      rw [runs] at performed
      obtain ⟨ended, ran, rfl⟩ := Option.map_eq_some_iff.mp performed
      have ends := (traceable_launch traceable launched).run ran
      obtain ⟨ip, attached, machine⟩ := resume_frame scene operation report ended
      refine { standing with tidy := ?_, numbered := ?_ }
      · exact ends.tidy.of_machine (by rw [machine]) (by rw [machine])
      · rw [machine]
        exact ends.numbered
  | none =>
      obtain ⟨program, tape, history, attached, machine, which, -⟩ := idle_frame launched performed
      refine { standing with tidy := ?_, numbered := ?_ }
      · rcases which with rfl | ⟨-, rfl⟩
        · exact traceable.tidy.of_machine (by rw [machine]) (by rw [machine])
        · obtain ⟨config, depicts⟩ := traceable.tidy
          have cleared : World.Tidy { scene.world with machine := scene.world.machine.resetTape } :=
            ⟨config.clear, depicts.clear⟩
          exact cleared.of_machine (by rw [machine]; rfl) (by rw [machine]; rfl)
      · rw [machine]
        exact traceable.numbered

end Operation

theorem Reaches.traceable {allowed : Operation → Prop} {start scene : Scene}
    (traceable : start.world.Traceable) (reached : Reaches allowed start scene) :
    scene.world.Traceable := by
  induction reached with
  | refl => exact traceable
  | step _ _ performed ih => exact Operation.traceable_perform ih performed

/-- The latest entry tells how the run ended. When the program completed, executing what the entry shows
leads to where the machine stands; otherwise it is the entry of the instruction that failed. -/
structure Ended.Explains (ended : Ended) (outlet : Outlet) (world : World) (entry : LogEntry UInt8)
    (before : World) : Prop where
  latest : ended.world.machine.log.last? = some entry
  logged : Run.Logged outlet world entry before
  completed : ended.verdict = none → ∃ reached target,
    entry.execute world.machine.program.toList before.offered = some (reached, target) ∧
      ended.world.Depicts reached ∧ ended.world.machine.ip = (target : Nat)
  failed : ∀ fault, ended.verdict = some fault → ∃ raised left, Run.step before = .error raised left ∧
    fault = Run.reported left.machine raised ∧ ended.world.machine.ip = before.machine.ip

theorem World.Traceable.explains {world : World} (traceable : world.Traceable) {outlet : Outlet}
    (verbose : world.machine.verbose = true) (clears : OnlyClears world.machine.program.toList)
    {fuel : Nat} {ended : Ended} (ran : Run.run fuel outlet world = some ended)
    (running : world.machine.halted = false) :
    ∃ entry before, ended.Explains outlet world entry before := by
  have kept : 0 < world.machine.log.limit := by
    rw [traceable.limit]
    decide
  obtain ⟨failure, executed, stops, rfl⟩ := Run.ending_of_builtin traceable.builtin ran running
  obtain ⟨entry, before, latest, logged, ends⟩ :=
    Run.last_entry (traceable.traced outlet verbose clears) kept running stops
  obtain ⟨attached, machine⟩ := Run.ending_machine outlet failure executed
  have verdict := (Run.ending_outcome outlet failure executed).1
  refine ⟨entry, before, by rw [machine]; exact latest, logged, ?_, ?_⟩
  · intro completed
    rw [verdict] at completed
    cases failure with
    | some raised => cases completed
    | none =>
        obtain ⟨reached, target, executes, depicts, moved⟩ := ends
        have ends : (Run.ending outlet none executed).world.Depicts reached :=
          depicts.of_machine (by rw [machine]) (by rw [machine])
        exact ⟨reached, target, executes, ends, by rw [machine]; exact moved⟩
  · intro fault failed
    rw [verdict] at failed
    cases failure with
    | none => cases failed
    | some raised =>
        cases failed
        exact ⟨raised, executed, ends.1, rfl, by rw [machine]; exact ends.2⟩

/-- The step log is a faithful trace. Whatever a client has done, let a verbose machine be run whose
program has no command but clears. At every point of the run, executing what one of its entries shows, with
the byte that was offered at that step, leads to what the next kept entry shows. When the program completes,
which it may though the last flush fails, what the latest entry shows leads to where the machine stands;
otherwise the latest entry is that of the instruction that failed. A machine that is not verbose and is used
in the same way comes to the same end, and its log is the same without the snapshots. -/
theorem step_log_is_faithful_trace {start scene : Scene} {operation : Operation} {outlet : Outlet}
    {world : World} (fresh : start.Fresh) (reached : Reaches (fun _ => True) start scene)
    (launched : operation.launch scene = some (outlet, world)) (verbose : world.machine.verbose = true)
    (clears : OnlyClears world.machine.program.toList) :
    (∀ (fuel index : Nat) (entry next : LogEntry UInt8),
      (Run.point outlet world fuel).machine.log.entries[index]? = some entry →
      (Run.point outlet world fuel).machine.log.entries[index + 1]? = some next →
      world.machine.log.next ≤ entry.step →
        ∃ before reached target, Run.Logged outlet world entry before ∧
          entry.execute world.machine.program.toList before.offered = some (reached, target) ∧
          next.Shows world.machine.program.toList reached target) ∧
      (∀ (fuel : Nat) (ended : Ended), Run.run fuel outlet world = some ended →
        ended.world.machine.log = (Run.point outlet world fuel).machine.log ∧
        (ended.world.machine.halted = true ↔ ended.verdict = none) ∧
        (ended.fault = ended.verdict ∨ ∃ fault, ended.fault = some fault ∧ outlet.Raises fault) ∧
        (world.machine.halted = true → ended.world = world) ∧
        (world.machine.halted = false → ∃ entry before, ended.Explains outlet world entry before) ∧
        ended.quiet.world.machine.log.entries =
          ended.world.machine.log.entries.map LogEntry.quiet) ∧
      start.quiet.Fresh ∧ Reaches (fun _ => True) start.quiet scene.quiet ∧
      operation.launch scene.quiet = some (outlet, world.quiet) ∧
      ∀ fuel, Run.run fuel outlet world.quiet = (Run.run fuel outlet world).map Ended.quiet := by
  have traceable := Operation.traceable_launch (reached.traceable fresh.traceable) launched
  refine ⟨?_, ?_, fresh.quiet, reached.quiet fresh.builtin, Operation.launch_quiet launched, ?_⟩
  · intro fuel index entry next found follows added
    exact Run.entry_leads_to_next (traceable.traced outlet verbose clears) traceable.numbered found follows
      added
  · intro fuel ended ran
    obtain ⟨-, completes, -, leaves⟩ := traceable.toStandsBehind.run .nil ran
    refine ⟨Run.run_log traceable.builtin ran, completes, leaves, ?_,
      traceable.explains verbose clears ran, ended.world.machine.log.entries_quiet⟩
    intro halted
    rw [Run.run_of_halted fuel outlet halted] at ran
    cases ran
    rfl
  · intro fuel
    exact Run.run_quiet fuel outlet traceable.builtin

def clearingLoop : Setup where
  verbose := true
  program := [.input, .loopStart (some 4), .counted .decrement 1, .loopEnd 1, .command "clear", .input]
  furtherCells := 1
  source := .ofBytes [1]

/-- A program reads a byte, counts it down in a loop, clears the tape and waits for another byte. The entry
of the first read leads to the cells with the byte, and the latest entry is that of the second read, which
failed. -/
theorem starved_program_is_traced :
    ∃ (start : Scene) (world : World) (ended : Ended) (read opened last : LogEntry UInt8)
        (before starved : World) (reached : Config),
      start.Fresh ∧
      (Operation.run (.ofBytes [1]) (.direct {})).launch start = some (.direct {}, world) ∧
      world.machine.verbose = true ∧ OnlyClears world.machine.program.toList ∧
      Run.run 9 (.direct {}) world = some ended ∧
      ended.world.machine.log.entries[1]? = some read ∧
      ended.world.machine.log.entries[2]? = some opened ∧
      read.execute world.machine.program.toList before.offered = some (reached, 1) ∧
      opened.Shows world.machine.program.toList reached 1 ∧ reached.cells = [1, 0] ∧
      ended.Explains (.direct {}) world last starved ∧ last.ip = some 5 ∧
      ended.verdict.isSome = true := by
  have fresh : clearingLoop.scene.Fresh :=
    clearingLoop.fresh rfl (.inr ⟨[44, 91, 45, 93, 35, 99, 108, 101, 97, 114, 59, 44], "a", .command,
      parse_eq_ok_of_some (by decide +kernel)⟩)
  have launched : (Operation.run (.ofBytes [1]) (.direct {})).launch clearingLoop.scene =
      some (.direct {}, clearingLoop.world) := rfl
  have clears : OnlyClears clearingLoop.world.machine.program.toList := by
    intro text found
    have same : text = "clear" := by
      simpa [Setup.world, Setup.machine, clearingLoop] using found
    rw [same]
    decide +kernel
  obtain ⟨follows, ends, -⟩ := step_log_is_faithful_trace fresh .refl launched rfl clears
  have shown : (Run.run 9 (.direct {}) clearingLoop.world).map (fun ended =>
      (ended.world.machine.log.entries[1]?.map (·.step),
        ended.world.machine.log.entries[2]?.map fun entry => (entry.ip, entry.tape))) =
      some (some 1, some (some 1, some [1, 0])) := by
    decide +kernel
  have stops : (Run.run 9 (.direct {}) clearingLoop.world).map (fun ended =>
      (ended.world.machine.log.last?.map (·.ip), ended.verdict.isSome)) = some (some (some 5), true) := by
    decide +kernel
  obtain ⟨ended, ran, seen⟩ := Option.map_eq_some_iff.mp shown
  rw [ran] at stops
  simp only [Option.map_some, Option.some.injEq, Prod.mk.injEq] at seen stops
  obtain ⟨read, found, number⟩ := Option.map_eq_some_iff.mp seen.1
  obtain ⟨opened, next, shows⟩ := Option.map_eq_some_iff.mp seen.2
  obtain ⟨log, -, -, -, explains, -⟩ := ends 9 ended ran
  obtain ⟨last, starved, explained⟩ := explains rfl
  have added : clearingLoop.world.machine.log.next ≤ read.step := by
    rw [number]
    decide
  obtain ⟨before, reached, target, -, executes, leads⟩ :=
    follows 9 1 read opened (log ▸ found) (log ▸ next) added
  simp only [Prod.mk.injEq, leads.ip, leads.tape, Option.some.injEq] at shows
  obtain rfl : target = 1 := by omega
  rw [explained.latest] at stops
  exact ⟨_, _, ended, read, opened, last, before, starved, reached, fresh, launched, rfl, clears, ran,
    found, next, executes, leads, shows.2, explained, Option.some.inj stops.1, stops.2⟩

end TapeLang
