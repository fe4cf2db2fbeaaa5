import TapeLang.Proofs.Log.Recording
import TapeLang.Proofs.Machine.Motion

/-!
The log as a trace. When a program has no command but clears, its run logs nothing but the instructions
that it executes, each with the cells and the pointer that the instruction finds. So the entries can be
executed again: what one of them shows leads to what the next one shows, and what the latest one shows
leads to where the run ended.
-/

namespace TapeLang

def OnlyClears (program : List Instruction) : Prop :=
  ∀ text, .command text ∈ program → commandName text = "clear"

def Machine.stepReport (machine : Machine) : StepLog.Report UInt8 where
  ip := some machine.ip
  instruction := (machine.fetch machine.ip).toOption.map (·.text)
  pointer := machine.pointer
  tape := if machine.verbose then some machine.cells else none
  record := (machine.fetch machine.ip).toOption.toList.map fun instruction =>
    ("rule", .str instruction.kindName)

theorem Machine.log_step_eq {machine : Machine} {instruction : Instruction}
    (fetched : machine.fetch machine.ip = .ok instruction) :
    machine.logStep instruction = machine.logReport machine.stepReport := by
  simp [logStep, stepReport, fetched, Except.toOption]

namespace LogEntry

def config? (entry : LogEntry UInt8) (input : Bytes) : Option Config :=
  match entry.tape with
  | none => none
  | some cells =>
    if inside : 0 ≤ entry.pointer ∧ entry.pointer.toNat < cells.length then
      some { cells, pointer := entry.pointer.toNat, input, output := [], inside := inside.2 }
    else none

/-- Executes the instruction at the place of an entry on the cells and the pointer that it shows. -/
def execute (entry : LogEntry UInt8) (program : List Instruction) (input : Bytes) :
    Option (Config × Nat) :=
  match entry.config? input, entry.ip with
  | some config, some (.ofNat ip) => Flat.stepBuiltin program config ip
  | _, _ => none

structure Shows (entry : LogEntry UInt8) (program : List Instruction) (config : Config) (place : Nat) :
    Prop where
  ip : entry.ip = some (place : Int)
  instruction : ∃ instruction, program[place]? = some instruction ∧
    entry.instruction = some instruction.text
  pointer : entry.pointer = config.pointer
  tape : entry.tape = some config.cells

theorem Shows.execute_eq {entry : LogEntry UInt8} {program : List Instruction} {config : Config}
    {place : Nat} (shows : entry.Shows program config place) (nothing : config.output = []) :
    entry.execute program config.input = Flat.stepBuiltin program config place := by
  have found : entry.config? config.input = some config := by
    have place : entry.pointer.toNat = config.pointer := by
      rw [shows.pointer, Int.toNat_natCast]
    have inside : 0 ≤ entry.pointer ∧ entry.pointer.toNat < config.cells.length := by
      rw [place, shows.pointer]
      exact ⟨Int.natCast_nonneg _, config.inside⟩
    unfold config?
    rw [shows.tape]
    dsimp only
    rw [dif_pos inside, Option.some.injEq]
    exact Config.ext rfl place rfl nothing.symm
  unfold execute
  rw [found, shows.ip]

end LogEntry

namespace Run

def visited : Nat → World → List World
  | 0, _ => []
  | fuel + 1, world =>
    if world.machine.halted then []
    else
      world ::
        match step world with
        | .ok _ after => visited fuel after
        | .error _ _ => []

theorem visited_of_halted (fuel : Nat) {world : World} (halted : world.machine.halted = true) :
    visited fuel world = [] := by
  cases fuel with
  | zero => rfl
  | succ fuel => rw [visited, if_pos halted]

theorem visited_of_ok (fuel : Nat) {world after : World} (running : world.machine.halted = false)
    (stepped : step world = .ok () after) :
    visited (fuel + 1) world = world :: visited fuel after := by
  rw [visited, if_neg (by simp [running]), stepped]

theorem visited_of_error (fuel : Nat) {world after : World} {fault : Fault}
    (running : world.machine.halted = false) (failed : step world = .error fault after) :
    visited (fuel + 1) world = [world] := by
  rw [visited, if_neg (by simp [running]), failed]

theorem visited_first {fuel : Nat} {world before : World}
    (found : (visited fuel world)[0]? = some before) :
    before = world ∧ world.machine.halted = false := by
  cases fuel with
  | zero => cases found
  | succ fuel =>
      unfold visited at found
      split at found
      case isTrue => cases found
      case isFalse running => exact ⟨(Option.some.inj found).symm, by simpa using running⟩

theorem visited_later {fuel count : Nat} {world before : World}
    (found : (visited fuel world)[count + 1]? = some before) :
    ∃ rest after, fuel = rest + 1 ∧ world.machine.halted = false ∧ step world = .ok () after ∧
      (visited rest after)[count]? = some before := by
  cases fuel with
  | zero => cases found
  | succ fuel =>
      cases halted : world.machine.halted with
      | true =>
          rw [visited_of_halted _ halted] at found
          cases found
      | false =>
          cases stepped : step world with
          | ok _ after =>
              rw [visited_of_ok fuel halted stepped] at found
              exact ⟨fuel, after, rfl, rfl, rfl, found⟩
          | error fault after =>
              rw [visited_of_error fuel halted stepped] at found
              cases found

theorem steps_of_visited {fuel count : Nat} {world before : World}
    (found : (visited fuel world)[count]? = some before) : steps count world = .ok false before := by
  induction count generalizing fuel world with
  | zero =>
      obtain ⟨rfl, running⟩ := visited_first found
      rw [steps_zero, running]
  | succ count ih =>
      obtain ⟨rest, after, -, running, stepped, later⟩ := visited_later found
      rw [steps_succ_of_running count running, bind_eq, stepped]
      exact ih later

theorem step_of_visited {fuel count : Nat} {world before after : World}
    (found : (visited fuel world)[count]? = some before)
    (follows : (visited fuel world)[count + 1]? = some after) : step before = .ok () after := by
  induction count generalizing fuel world with
  | zero =>
      obtain ⟨rfl, -⟩ := visited_first found
      obtain ⟨rest, middle, -, -, stepped, later⟩ := visited_later follows
      obtain ⟨rfl, -⟩ := visited_first later
      exact stepped
  | succ count ih =>
      obtain ⟨rest, middle, rfl, running, stepped, later⟩ := visited_later found
      rw [visited_of_ok rest running stepped] at follows
      exact ih later follows

theorem visited_keep {kept : World → Prop}
    (keeps : ∀ {world after : World}, kept world → world.machine.halted = false →
      step world = .ok () after → kept after)
    {fuel count : Nat} {world before : World} (begins : kept world)
    (found : (visited fuel world)[count]? = some before) :
    kept before ∧ before.machine.halted = false := by
  induction count generalizing fuel world with
  | zero =>
      obtain ⟨rfl, running⟩ := visited_first found
      exact ⟨begins, running⟩
  | succ count ih =>
      obtain ⟨rest, after, -, running, stepped, later⟩ := visited_later found
      exact ih (keeps begins running stepped) later

theorem visited_last {fuel : Nat} {world executed : World} {failure : Option Fault}
    (running : world.machine.halted = false) (stops : steps fuel world = stopped failure executed) :
    ∃ front before, visited fuel world = front ++ [before] ∧
      match failure with
      | none => step before = .ok () executed
      | some raised => step before = .error raised executed := by
  induction fuel generalizing world with
  | zero =>
      rw [steps_zero, running] at stops
      cases failure <;> cases stops
  | succ fuel ih =>
      rw [steps_succ_of_running fuel running, bind_eq] at stops
      cases stepped : step world with
      | error fault after =>
          rw [stepped] at stops
          refine ⟨[], world, visited_of_error fuel running stepped, ?_⟩
          cases failure <;> cases stops
          exact stepped
      | ok _ after =>
          rw [stepped] at stops
          dsimp only at stops
          rw [visited_of_ok fuel running stepped]
          cases halted : after.machine.halted with
          | false =>
              obtain ⟨front, before, trail, last⟩ := ih halted stops
              exact ⟨world :: front, before, by rw [trail]; rfl, last⟩
          | true =>
              -- nothing is left to do, so this step was the last one
              rw [steps_of_halted fuel halted] at stops
              refine ⟨[], world, by rw [visited_of_halted fuel halted]; rfl, ?_⟩
              cases failure <;> cases stops
              exact stepped

/-- What every step makes of the worlds visited so far, failed or not, the steps make of all that they
visit. -/
theorem yields_steps_along {along : List World → World → Prop}
    (keeps : ∀ {trail : List World} {world : World}, along trail world → world.host.services.Builtin →
      Yields step world (fun _ after => along (trail ++ [world]) after)
        fun _ after => along (trail ++ [world]) after)
    {trail : List World} {world : World} (begins : along trail world)
    (builtin : world.host.services.Builtin) (fuel : Nat) :
    Yields (steps fuel) world (fun _ after => along (trail ++ visited fuel world) after)
      fun _ after => along (trail ++ visited fuel world) after := by
  induction fuel generalizing trail world with
  | zero =>
      rw [visited, List.append_nil]
      exact begins
  | succ fuel ih =>
      cases halted : world.machine.halted with
      | true =>
          rw [yields_steps_of_halted fuel halted, visited_of_halted _ halted, List.append_nil]
          exact begins
      | false =>
          have stepped := keeps begins builtin
          have advances : Advances step world := advances_step builtin
          rw [yields_steps_of_running fuel halted]
          unfold Yields at stepped ⊢
          cases result : step world with
          | error fault after =>
              rw [result] at stepped
              rw [visited_of_error fuel halted result]
              exact stepped
          | ok _ middle =>
              rw [result] at stepped
              have rest := ih stepped ((advances.of_ok result).builtin builtin)
              rw [List.append_assoc] at rest
              rw [visited_of_ok fuel halted result]
              exact rest

theorem point_along {along : List World → World → Prop}
    (keeps : ∀ {trail : List World} {world : World}, along trail world → world.host.services.Builtin →
      Yields step world (fun _ after => along (trail ++ [world]) after)
        fun _ after => along (trail ++ [world]) after)
    {outlet : Outlet} {world : World} (begins : along [] (world.attach outlet))
    (builtin : world.host.services.Builtin) (fuel : Nat) :
    along (visited fuel (world.attach outlet)) (point outlet world fuel) := by
  have stepped := yields_steps_along keeps begins builtin fuel
  unfold point
  cases result : steps fuel (world.attach outlet) with
  | ok halted after => exact stepped.of_ok result
  | error fault after => exact stepped.of_error result

theorem ending_of_point {fuel : Nat} {outlet : Outlet} {world : World} {ended : Ended}
    (builtin : world.host.services.Builtin) (ran : run fuel outlet world = some ended)
    (running : world.machine.halted = false) :
    ∃ failure, ended = ending outlet failure (point outlet world fuel) := by
  obtain ⟨failure, executed, stops, rfl⟩ := ending_of_builtin builtin ran running
  refine ⟨failure, ?_⟩
  unfold point
  rw [stops]
  cases failure <;> rfl

end Run

/-- What holds at every point of a verbose run of a program that has no command but clears. -/
structure World.Traced (outlet : Outlet) (program : List Instruction) (world : World) : Prop where
  standing : world.StandsBehind []
  tidy : world.Tidy
  mutes : world.Mutes outlet
  verbose : world.machine.verbose = true
  clears : OnlyClears program
  program : world.machine.program.toList = program

namespace World.Traced

variable {world : World} {outlet : Outlet} {program : List Instruction}

/-- A step logs its instruction and nothing else; when it fails, control stays there. -/
theorem step (traced : world.Traced outlet program) (running : world.machine.halted = false) :
    Run.Yields Run.step world
      (fun _ after => after.Traced outlet program ∧
        after.machine.log = world.machine.log.record world.machine.stepReport)
      fun _ after => (after.Traced outlet program ∧
        after.machine.log = world.machine.log.record world.machine.stepReport) ∧
        after.machine.ip = world.machine.ip := by
  obtain ⟨index, instruction, -, found, fetched⟩ := traced.standing.found running
  -- only an include would log more than its own step
  have clears : ∀ text, instruction = .command text → commandName text = "clear" := by
    rintro text rfl
    rw [traced.program] at found
    exact traced.clears text (List.mem_of_getElem? found)
  have moves := Run.yields_step_moves traced.standing.builtin fetched clears
  have stands := traced.standing.step .nil traced.mutes running
  have tidies := traced.tidy.step traced.standing running
  rw [Machine.log_step_eq fetched] at moves
  have still {after : World} {ip : Int} (tidy : after.Tidy) (standing : after.StandsBehind [])
      (mutes : after.Mutes outlet)
      (moved : Machine.Moves { world.machine.logReport world.machine.stepReport with ip } after.machine) :
      after.Traced outlet program ∧
        after.machine.log = world.machine.log.record world.machine.stepReport := by
    obtain ⟨_, _, _, _, machine⟩ := moved
    refine ⟨⟨standing, tidy, mutes, ?_, traced.clears, ?_⟩, ?_⟩
    · rw [machine]
      exact traced.verbose
    · rw [machine]
      exact traced.program
    · rw [machine]
      rfl
  unfold Run.Yields
  cases result : Run.step world with
  | ok _ after =>
      obtain ⟨standing, mutes⟩ := stands.of_ok result
      obtain ⟨ip, moved⟩ := moves.of_ok result
      exact still (tidies.of_ok result) standing mutes moved
  | error fault after =>
      obtain ⟨standing, mutes, -⟩ := stands.of_error result
      have moved := moves.of_error result
      refine ⟨still (tidies.of_error result) standing mutes moved, ?_⟩
      obtain ⟨_, _, _, _, machine⟩ := moved
      rw [machine]
      rfl

theorem steps (traced : world.Traced outlet program) (fuel : Nat) :
    Run.Yields (Run.steps fuel) world
      (fun _ after => after.Traced outlet program ∧ after.machine.log =
        world.machine.log.recordAll ((Run.visited fuel world).map (·.machine.stepReport)))
      fun _ after => after.Traced outlet program ∧ after.machine.log =
        world.machine.log.recordAll ((Run.visited fuel world).map (·.machine.stepReport)) := by
  induction fuel generalizing world with
  | zero => exact ⟨traced, rfl⟩
  | succ fuel ih =>
      cases halted : world.machine.halted with
      | true =>
          rw [Run.yields_steps_of_halted fuel halted, Run.visited_of_halted _ halted]
          exact ⟨traced, rfl⟩
      | false =>
          rw [Run.yields_steps_of_running fuel halted]
          have stepped := traced.step halted
          unfold Run.Yields at stepped ⊢
          cases result : Run.step world with
          | error fault after =>
              rw [result] at stepped
              rw [Run.visited_of_error fuel halted result]
              exact stepped.1
          | ok _ middle =>
              rw [result] at stepped
              obtain ⟨still, log⟩ := stepped
              -- the later steps record behind what the first one has recorded
              have rest := ih still
              rw [log] at rest
              rw [Run.visited_of_ok fuel halted result]
              exact rest

theorem visited (traced : world.Traced outlet program) {fuel count : Nat} {before : World}
    (found : (Run.visited fuel world)[count]? = some before) :
    before.Traced outlet program ∧ before.machine.halted = false :=
  Run.visited_keep (fun still running stepped => ((step still running).of_ok stepped).1) traced found

theorem shows (traced : world.Traced outlet program) (running : world.machine.halted = false)
    {config : Config} (depicts : world.Depicts config) {entry : LogEntry UInt8}
    (reports : entry.Reports world.machine.stepReport) :
    ∃ place : Nat, world.machine.ip = place ∧ entry.Shows program config place := by
  obtain ⟨place, instruction, here, found, fetched⟩ := traced.standing.found running
  rw [traced.program] at found
  refine ⟨place, here, ?_, ⟨instruction, found, ?_⟩, ?_, ?_⟩
  · rw [reports.ip]
    exact congrArg some here
  · rw [reports.instruction]
    simp [Machine.stepReport, fetched, Except.toOption]
  · rw [reports.pointer]
    exact depicts.pointer
  · rw [reports.tape]
    simp [Machine.stepReport, traced.verbose, depicts.cells]

/-- Executing what is logged of a step does what the step does. -/
theorem executes (traced : world.Traced outlet program) (running : world.machine.halted = false)
    {entry : LogEntry UInt8} (reports : entry.Reports world.machine.stepReport) {after : World}
    (stepped : Run.step world = .ok () after) :
    ∃ (reached : Config) (target : Nat), entry.execute program world.offered = some (reached, target) ∧
      after.Depicts reached ∧ after.machine.ip = target := by
  obtain ⟨config, depicts, offers, nothing⟩ := traced.tidy.depicts
  obtain ⟨place, here, shows⟩ := traced.shows running depicts reports
  obtain ⟨index, reached, target, there, effect, still, moved⟩ :=
    (depicts.step offers traced.standing running).of_ok stepped
  obtain rfl : place = index := by omega
  refine ⟨reached, target, ?_, still, moved⟩
  rw [← offers, shows.execute_eq nothing, ← traced.program]
  exact effect

end World.Traced

namespace Run

theorem run_log {fuel : Nat} {outlet : Outlet} {world : World} {ended : Ended}
    (builtin : world.host.services.Builtin) (ran : run fuel outlet world = some ended) :
    ended.world.machine.log = (point outlet world fuel).machine.log := by
  unfold point
  cases halted : world.machine.halted with
  | true =>
      have stays : (world.attach outlet).machine.halted = true := halted
      rw [run_of_halted fuel outlet halted] at ran
      cases ran
      rw [steps_of_halted fuel stays]
      rfl
  | false =>
      obtain ⟨failure, executed, stops, rfl⟩ := ending_of_builtin builtin ran halted
      obtain ⟨attached, machine⟩ := ending_machine outlet failure executed
      rw [stops, machine]
      cases failure <;> rfl

structure Logged (outlet : Outlet) (world : World) (entry : LogEntry UInt8) (before : World) : Prop where
  recent : world.machine.log.next ≤ entry.step
  reached : steps (entry.step - world.machine.log.next).toNat (world.attach outlet) = .ok false before
  shows : ∃ (config : Config) (place : Nat), before.Depicts config ∧ before.machine.ip = place ∧
    entry.Shows before.machine.program.toList config place

section Logged

variable {world : World} {outlet : Outlet} {program : List Instruction} {fuel : Nat}

theorem logged (traced : (world.attach outlet).Traced outlet program) {count : Nat} {before : World}
    (found : (visited fuel (world.attach outlet))[count]? = some before) {entry : LogEntry UInt8}
    (number : entry.step = world.machine.log.next + count)
    (reports : entry.Reports before.machine.stepReport) : Logged outlet world entry before where
  recent := by omega
  reached := by
    rw [show (entry.step - world.machine.log.next).toNat = count by omega]
    exact steps_of_visited found
  shows := by
    obtain ⟨still, running⟩ := traced.visited found
    obtain ⟨config, depicts, -, -⟩ := still.tidy.depicts
    obtain ⟨place, here, shows⟩ := still.shows running depicts reports
    rw [still.program]
    exact ⟨config, place, depicts, here, shows⟩

theorem point_log (traced : (world.attach outlet).Traced outlet program) (fuel : Nat) :
    (point outlet world fuel).machine.log = world.machine.log.recordAll
      ((visited fuel (world.attach outlet)).map (·.machine.stepReport)) := by
  have stepped := traced.steps fuel
  unfold point
  cases result : steps fuel (world.attach outlet) with
  | ok halted after => exact (stepped.of_ok result).2
  | error fault after => exact (stepped.of_error result).2

/-- Executing what an entry of the run shows leads to what the next one shows. -/
theorem entry_leads_to_next (traced : (world.attach outlet).Traced outlet program)
    (numbered : world.machine.log.Numbered) {index : Nat} {entry next : LogEntry UInt8}
    (found : (point outlet world fuel).machine.log.entries[index]? = some entry)
    (follows : (point outlet world fuel).machine.log.entries[index + 1]? = some next)
    (added : world.machine.log.next ≤ entry.step) :
    ∃ before reached target, Logged outlet world entry before ∧
      entry.execute program before.offered = some (reached, target) ∧
      next.Shows program reached target := by
  rw [point_log traced] at found follows
  obtain ⟨count, report, following, number, reported, reportedNext, reports, reportsNext⟩ :=
    StepLog.consecutive_reports numbered found follows added
  rw [List.getElem?_map, Option.map_eq_some_iff] at reported reportedNext
  obtain ⟨before, visits, rfl⟩ := reported
  obtain ⟨after, visitsNext, rfl⟩ := reportedNext
  obtain ⟨still, running⟩ := traced.visited visits
  obtain ⟨stillNext, runningNext⟩ := traced.visited visitsNext
  obtain ⟨reached, target, executes, depicts, moved⟩ :=
    still.executes running reports (step_of_visited visits visitsNext)
  obtain ⟨place, here, shows⟩ := stillNext.shows runningNext depicts reportsNext
  obtain rfl : target = place := by omega
  exact ⟨before, reached, target, logged traced visits number reports, executes, shows⟩

theorem last_entry (traced : (world.attach outlet).Traced outlet program)
    (kept : 0 < world.machine.log.limit) (running : world.machine.halted = false) {failure : Option Fault}
    {executed : World} (stops : steps fuel (world.attach outlet) = stopped failure executed) :
    ∃ entry before, executed.machine.log.last? = some entry ∧ Logged outlet world entry before ∧
      match failure with
      | none => ∃ (reached : Config) (target : Nat),
          entry.execute program before.offered = some (reached, target) ∧ executed.Depicts reached ∧
            executed.machine.ip = target
      | some raised => step before = .error raised executed ∧ executed.machine.ip = before.machine.ip := by
  have attached : (world.attach outlet).machine.halted = false := running
  obtain ⟨front, before, trail, ends⟩ := visited_last attached stops
  have visits : (visited fuel (world.attach outlet))[front.length]? = some before := by
    rw [trail, List.getElem?_concat_length]
  obtain ⟨still, runs⟩ := traced.visited visits
  have log : executed.machine.log = world.machine.log.recordAll
      (front.map (·.machine.stepReport) ++ [before.machine.stepReport]) := by
    have stepped := traced.steps fuel
    rw [trail, List.map_append] at stepped
    cases failure with
    | none => exact (stepped.of_ok stops).2
    | some fault => exact (stepped.of_error stops).2
  have here : before.machine.stepReport.ip = some before.machine.ip := rfl
  obtain ⟨entry, last, number, reports⟩ :=
    StepLog.last_reports kept (front.map (·.machine.stepReport)) here
  rw [List.length_map] at number
  refine ⟨entry, before, log ▸ last, logged traced visits number reports, ?_⟩
  cases failure with
  | none => exact still.executes runs reports ends
  | some raised => exact ⟨ends, ((still.step runs).of_error ends).2⟩

end Logged

end Run

end TapeLang
