import TapeLang.Proofs.Machine.Halting
import TapeLang.Proofs.Session.Diagnosis

/-!
Runs one after another. They never bring a command into the program, however many files they include; and
when there is no loop in the program or in the files that it names, every run comes to an end.
-/

namespace TapeLang

def Operation.IsRun : Operation → Prop
  | .run _ _ => True
  | _ => False

namespace Operation

variable {scene after : Scene} {input : Source} {outlet : Outlet} {fuel : Nat}

theorem grows_run (builtin : scene.world.host.services.Builtin)
    (performed : (Operation.run input outlet).perform fuel scene = some after) :
    Grows scene.program after.program := by
  have launched : (Operation.run input outlet).launch scene = some (outlet, _) := rfl
  obtain ⟨report, runs⟩ := perform_of_launch launched
  rw [runs] at performed
  obtain ⟨ended, ran, rfl⟩ := Option.map_eq_some_iff.mp performed
  obtain ⟨program, -, services⟩ := FailureReport.release_keeps scene.session.report
    { scene.world with source := input }
  have grown := (Run.run_later (services ▸ builtin) ran).program
  rw [program] at grown
  unfold resume
  cases ended.fault <;> exact grown

theorem straight_launch (straight : scene.world.Straight) {world : World}
    (launched : (Operation.run input outlet).launch scene = some (outlet, world)) : world.Straight := by
  cases launched
  have supplied : World.Straight { scene.world with source := input } := { straight with }
  unfold FailureReport.release
  split
  · split <;> exact { supplied with }
  · exact supplied

theorem straight_run (standing : scene.world.StandsWithLog) (straight : scene.world.Straight)
    (performed : (Operation.run input outlet).perform fuel scene = some after) :
    after.world.Straight := by
  have launched : (Operation.run input outlet).launch scene = some (outlet, _) := rfl
  obtain ⟨report, runs⟩ := perform_of_launch launched
  rw [runs] at performed
  obtain ⟨ended, ran, rfl⟩ := Option.map_eq_some_iff.mp performed
  have still := (straight_launch straight launched).run
    (stands_with_log_launch standing launched).toStandsBehind ran
  unfold resume
  cases ended.fault with
  | none => exact still
  | some fault => exact { still with }

theorem run_ends (standing : scene.world.StandsWithLog) (straight : scene.world.Straight) (input : Source)
    (outlet : Outlet) : ∃ fuel after, (Operation.run input outlet).perform fuel scene = some after := by
  have launched : (Operation.run input outlet).launch scene = some (outlet, _) := rfl
  obtain ⟨report, runs⟩ := perform_of_launch launched
  obtain ⟨fuel, ended, ran⟩ :=
    (straight_launch straight launched).run_ends
      (stands_with_log_launch standing launched).toStandsBehind outlet
  exact ⟨fuel, _, by rw [runs, ran]; rfl⟩

end Operation

namespace Reaches

variable {scene later : Scene}

theorem grows (builtin : scene.world.host.services.Builtin) (runs : Reaches Operation.IsRun scene later) :
    Grows scene.program later.program := by
  induction runs with
  | refl => exact .refl
  | @step middle after operation fuel earlier isRun performed ih =>
      cases operation with
      | run input outlet =>
          exact ih.trans (Operation.grows_run ((earlier.follows builtin).builtin builtin) performed)
      | _ => cases isRun

theorem straight (standing : scene.world.StandsWithLog) (straight : scene.world.Straight)
    (runs : Reaches Operation.IsRun scene later) : later.world.Straight := by
  induction runs with
  | refl => exact straight
  | @step middle after operation fuel earlier isRun performed ih =>
      cases operation with
      | run input outlet => exact Operation.straight_run (earlier.stands_with_log standing) ih performed
      | _ => cases isRun

end Reaches

/-- However often the machine is run, what its program grows by holds no command, so it has as many
commands as before, also at every point of a run. If its program has no loops and names no readable file
with a bracket to be included, every further run ends, whatever its streams do. -/
theorem runs_add_no_command_and_end_without_loops {start scene later : Scene} (fresh : start.Fresh)
    (reached : Reaches (fun _ => True) start scene) (runs : Reaches Operation.IsRun scene later) :
    (∃ rest, later.program = scene.program ++ rest ∧ ∀ text, .command text ∉ rest) ∧
      later.program.countP Instruction.isCommand = scene.program.countP Instruction.isCommand ∧
      (∀ (input : Source) (outlet : Outlet) (world : World) (fuel : Nat),
        (Operation.run input outlet).launch later = some (outlet, world) →
          (Run.point outlet world fuel).machine.program.toList.countP Instruction.isCommand =
            scene.program.countP Instruction.isCommand) ∧
      (scene.world.Straight → ∀ (input : Source) (outlet : Outlet),
        ∃ fuel after, (Operation.run input outlet).perform fuel later = some after) := by
  have standing := reached.stands_with_log fresh.stands_with_log
  have grown := runs.grows standing.builtin
  have laterStanding := runs.stands_with_log standing
  have counts {program : List Instruction} (grown : Grows scene.program program) :
      program.countP Instruction.isCommand = scene.program.countP Instruction.isCommand := by
    obtain ⟨rest, rfl, none⟩ := grown.exists_rest
    rw [List.countP_append, none, Nat.add_zero]
  refine ⟨?_, counts grown, ?_, ?_⟩
  · obtain ⟨rest, program, none⟩ := grown.exists_rest
    exact ⟨rest, program, countP_is_command_eq_zero_iff.mp none⟩
  · intro input outlet world fuel launched
    have begins := (Operation.stands_with_log_launch laterStanding launched).builtin
    have program : world.machine.program = later.world.machine.program := by
      cases launched
      exact (FailureReport.release_keeps _ _).1
    have inside := (Run.point_later outlet begins fuel).program
    rw [program] at inside
    exact counts (grown.trans inside)
  · intro straight input outlet
    exact Operation.run_ends laterStanding (runs.straight standing straight) input outlet

def selfIncludingText : Bytes := [35, 105, 110, 99, 108, 117, 100, 101, 32, 97, 59, 44]

def selfInclusion : Setup where
  program := [.command "include a", .input]
  files := .uniform (.bytes selfIncludingText)

/-- A program includes a file that reads as the program itself, and waits for input behind the include. Its
first run starves at the end of what the file brought, which is no include; its next run ends too. -/
theorem self_including_program_ends :
    ∃ start later : Scene, start.Fresh ∧ start.world.Straight ∧ Reaches Operation.IsRun start later ∧
      start.program = [.command "include a", .input] ∧
      later.program = [.command "include a", .input, .input] ∧ later.world.machine.ip = 2 ∧
      later.program.countP Instruction.isCommand = start.program.countP Instruction.isCommand ∧
      ∃ fuel after, (Operation.run (.ofBytes [7]) (.direct {})).perform fuel later = some after := by
  have fresh : selfInclusion.scene.Fresh :=
    selfInclusion.fresh rfl (.inr ⟨selfIncludingText, "a", .command, parse_eq_ok_of_some (by decide +kernel)⟩)
  have straight : selfInclusion.scene.world.Straight := by
    refine ⟨⟨?_, ?_⟩, ?_⟩
    · intro target found
      simp [Setup.scene, Setup.world, Setup.machine, selfInclusion] at found
    · intro target found
      simp [Setup.scene, Setup.world, Setup.machine, selfInclusion] at found
    · intro text _ _ path _ content opened
      unfold FileSystem.read at opened
      split at opened
      · cases opened
      · cases opened
        exact ⟨by decide, by decide⟩
  have shown : ((Operation.run (.ofBytes [3]) (.direct {})).perform 9 selfInclusion.scene).map
      (fun later => (later.program, later.world.machine.ip)) =
      some ([.command "include a", .input, .input], 2) := by
    decide +kernel
  obtain ⟨later, performed, seen⟩ := Option.map_eq_some_iff.mp shown
  simp only [Prod.mk.injEq] at seen
  have isRun : (Operation.run (.ofBytes [3]) (.direct {})).IsRun := trivial
  have runs : Reaches Operation.IsRun selfInclusion.scene later := .step .refl isRun performed
  obtain ⟨-, count, -, ends⟩ := runs_add_no_command_and_end_without_loops fresh .refl runs
  exact ⟨selfInclusion.scene, later, fresh, straight, runs, rfl, seen.1, seen.2, count, ends straight _ _⟩

end TapeLang
