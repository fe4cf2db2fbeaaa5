import TapeLang.Proofs.Machine.Failure
import TapeLang.Proofs.Semantics.Flat

/-!
How the cells and the pointer move, whatever the streams do. With the built-in commands only, each
instruction that succeeds has the effect that the flat run gives it, where a clear sets all cells to zero
and an include touches none; and one that fails leaves the pointer in the cells. An instruction that is no
include changes nothing else of the machine but what was written.
-/

namespace TapeLang

def Config.clear (config : Config) : Config :=
  { config with
    cells := List.replicate config.cells.length 0
    output := config.output ++ [Run.clearByte]
    inside := by simpa using config.inside }

def Flat.stepBuiltin (program : List Instruction) (config : Config) (ip : Nat) : Option (Config × Nat) :=
  match program[ip]? with
  | some (.command text) => some (if commandName text = "clear" then config.clear else config, ip + 1)
  | _ => Flat.step program config ip

theorem Flat.step_builtin_of_step {program : List Instruction} {config reached : Config} {ip next : Nat}
    (steps : Flat.step program config ip = some (reached, next)) :
    Flat.stepBuiltin program config ip = some (reached, next) := by
  unfold stepBuiltin
  split
  case h_1 text found =>
    simp only [Flat.step, found] at steps
    cases steps
  case h_2 => exact steps

structure World.Depicts (world : World) (config : Config) : Prop where
  cells : world.machine.cells = config.cells
  pointer : world.machine.pointer = config.pointer
  clean : world.machine.tape.Clean

def World.offered (world : World) : Bytes :=
  (Run.byteOf world.source.take.1).toOption.toList

namespace World.Depicts

variable {world : World} {config : Config}

theorem size (depicts : world.Depicts config) : world.machine.tape.size = config.cells.length := by
  rw [← depicts.cells, Machine.cells, Tape.length_cells]

theorem inside (depicts : world.Depicts config) : config.pointer < world.machine.tape.size := by
  rw [depicts.size]
  exact config.inside

theorem current (depicts : world.Depicts config) :
    world.machine.tape.cells.getD config.pointer 0 = config.current :=
  congrArg (List.getD · config.pointer 0) depicts.cells

theorem of_machine {after : World} (depicts : world.Depicts config)
    (tape : after.machine.tape = world.machine.tape)
    (pointer : after.machine.pointer = world.machine.pointer) : after.Depicts config where
  cells := by
    rw [Machine.cells, tape]
    exact depicts.cells
  pointer := pointer.trans depicts.pointer
  clean := tape ▸ depicts.clean

theorem put (depicts : world.Depicts config) (value : UInt8) :
    (world.withTape (world.machine.tape.put config.pointer value)).Depicts (config.put value) where
  cells := by
    change (world.machine.tape.put config.pointer value).cells = config.cells.set config.pointer value
    rw [Tape.cells_put]
    exact congrArg (List.set · config.pointer value) depicts.cells
  pointer := depicts.pointer
  clean := Tape.clean_put depicts.clean depicts.inside value

theorem clear (depicts : world.Depicts config) :
    World.Depicts { world with machine := world.machine.resetTape } config.clear where
  cells := by
    change world.machine.tape.clear.cells = List.replicate config.cells.length 0
    rw [Tape.cells_clear, depicts.size]
  pointer := depicts.pointer
  clean := Tape.clean_clear _

theorem emit (config : Config) (bytes : Bytes) :
    Run.Keeps (fun world => world.Depicts config) (Run.emit bytes) :=
  Run.keeps_emit (fun _ _ depicts => { depicts with }) (fun _ _ depicts => { depicts with }) bytes

theorem readByte (depicts : world.Depicts config) :
    Run.Yields Run.readByte world (fun byte after => world.offered = [byte] ∧ after.Depicts config)
      fun _ after => after.Depicts config := by
  have flushes : Run.Yields Run.flush world
      (fun _ after => after.source = world.source ∧ after.Depicts config)
      fun _ after => after.Depicts config := by
    rw [Run.yields_flush]
    refine ⟨fun _ => ⟨rfl, depicts⟩, ?_⟩
    intro outlet _
    rw [Run.yields_settle]
    exact ⟨fun _ => ⟨rfl, { depicts with }⟩, fun _ _ => { depicts with }⟩
  rw [Run.yields_read_byte]
  apply flushes.mono ?_ fun _ _ still => still
  rintro _ flushed ⟨source, still⟩
  rw [source]
  refine ⟨?_, fun _ _ => { still with }⟩
  intro byte brought
  exact ⟨by simp [World.offered, brought, Except.toOption], { still with }⟩

theorem counted (depicts : world.Depicts config) (count : Nat) (kind : Counted) :
    Run.Yields (Run.execCounted count kind) world (fun _ after => after.Depicts (config.times count kind))
      fun _ _ => False := by
  have update (change : UInt8 → UInt8) :
      Run.Yields (Run.updateCell change) world
        (fun _ after => after.Depicts (config.put (change config.current))) fun _ _ => False := by
    unfold Run.Yields
    rw [Run.update_cell_inside depicts.pointer depicts.inside, depicts.current]
    exact depicts.put _
  cases kind with
  | increment => exact update _
  | decrement => exact update _
  | shiftLeft =>
      rw [Run.execCounted, Run.shiftLeft, Run.yields_modify_machine]
      refine ⟨depicts.cells, ?_, depicts.clean⟩
      dsimp only [Config.times]
      rw [depicts.pointer]
      split <;> omega
  | shiftRight =>
      have reach : (world.machine.pointer + count + 1).toNat = config.pointer + count + 1 := by
        rw [depicts.pointer]
        omega
      obtain ⟨cells, clean⟩ := Tape.grow_clean depicts.clean (config.pointer + count + 1)
      rw [Run.execCounted, Run.shiftRight, Run.yields_modify_machine]
      dsimp only
      rw [reach]
      refine ⟨?_, ?_, clean⟩
      · rw [depicts.size] at cells
        exact cells.trans (congrArg (· ++ _) depicts.cells)
      · simp [Config.times, depicts.pointer]

theorem included (depicts : world.Depicts config) {after : World} (included : world.Included after) :
    after.Depicts config := by
  rcases included with ⟨_, _, ⟨_, _, _, rfl⟩, _, rfl⟩
  exact { depicts with }

theorem noted (depicts : world.Depicts config) {after : World} (noted : world.Noted after) :
    after.Depicts config := by
  rcases noted with ⟨_, _, _, rfl⟩
  exact { depicts with }

/-- A clear has cleared the cells even if the byte that it writes is refused. -/
theorem command (depicts : world.Depicts config) (builtin : world.host.services.Builtin) (text : String)
    (ip : Int) :
    Run.Yields (Run.command text ip) world
      (fun _ after => after.Depicts (if commandName text = "clear" then config.clear else config))
      fun _ after => ∃ left, after.Depicts left := by
  unfold Run.Yields
  rw [Run.command_eq_builtin_command text ip builtin]
  change Run.Yields (Run.builtinCommand text ip) world _ _
  rw [Run.builtinCommand, Run.yields_bind, Run.yields_get, Run.yields_bind, Run.yields_lift]
  refine ⟨?_, fun _ _ => ⟨config, depicts⟩⟩
  intro spec resolved
  rcases Run.resolve_builtin builtin resolved with ⟨named, rfl⟩ | ⟨named, rfl⟩
  · rw [if_neg (by rw [named]; decide)]
    exact (Run.yields_include_files _ world).mono (fun _ _ => depicts.included)
      fun _ _ failed => ⟨config, depicts.noted failed.1⟩
  · rw [if_pos named]
    exact (emit config.clear _ _ depicts.clear).mono (fun _ _ still => still)
      fun _ _ still => ⟨_, still⟩

theorem exec (depicts : world.Depicts config) (offers : config.input = world.offered)
    (builtin : world.host.services.Builtin) {program : List Instruction} (well : WellFormed program)
    {ip : Nat} {instruction : Instruction} (found : program[ip]? = some instruction) :
    Run.Yields (Run.exec instruction ip) world
      (fun next after => ∃ reached target, Flat.stepBuiltin program config ip = some (reached, target) ∧
        next = (target : Nat) ∧ after.Depicts reached)
      fun _ after => ∃ left, after.Depicts left := by
  have cell : Run.Yields Run.readCell world (fun cell after => cell = config.current ∧ after = world)
      fun _ _ => False := by
    unfold Run.Yields
    rw [Run.read_cell_inside depicts.pointer depicts.inside]
    exact ⟨depicts.current, rfl⟩
  have plainly {reached : Config} {target : Nat} {after : World}
      (steps : Flat.step program config ip = some (reached, target)) (shows : after.Depicts reached) :
      ∃ reached target', Flat.stepBuiltin program config ip = some (reached, target') ∧
        (target : Int) = (target' : Nat) ∧ after.Depicts reached :=
    ⟨reached, target, Flat.step_builtin_of_step steps, rfl, shows⟩
  cases instruction with
  | counted kind count =>
      apply (depicts.counted count kind).bind_sure
      intro _ after still
      exact plainly (by simp only [Flat.step, found]) still
  | output =>
      apply cell.bind_sure
      rintro _ _ ⟨rfl, rfl⟩
      rw [Run.yields_bind]
      apply (emit config _ _ depicts).mono
      · intro _ after still
        have steps : Flat.step program config ip = some (config.emit, ip + 1) := by
          simp only [Flat.step, found]
        exact plainly steps { still with }
      · exact fun _ _ still => ⟨config, still⟩
  | input =>
      rw [Run.exec, Run.yields_bind]
      apply depicts.readByte.mono ?_ fun _ _ still => ⟨config, still⟩
      rintro byte middle ⟨brought, still⟩
      have write : Run.Yields (Run.writeCell byte) middle (fun _ after => after.Depicts (config.put byte))
          fun _ _ => False := by
        unfold Run.Yields
        rw [Run.write_cell_inside still.pointer still.inside]
        exact still.put byte
      apply write.bind_sure
      intro _ after written
      have reads : config.read = some (Config.put { config with input := [] } byte) := by
        rw [Config.read, offers, brought]
      have steps : Flat.step program config ip =
          some (Config.put { config with input := [] } byte, ip + 1) := by
        simp only [Flat.step, found, reads, Option.map_some]
      exact plainly steps { written with }
  | loopStart target =>
      obtain ⟨past, rfl, -⟩ := well.opening ip target found
      apply cell.bind_sure
      rintro _ _ ⟨rfl, rfl⟩
      refine ⟨config, if config.current = 0 then past else ip + 1, ?_, ?_, depicts⟩
      · apply Flat.step_builtin_of_step
        simp only [Flat.step, found, Int.toNat_natCast]
      · split <;> rfl
  | loopEnd start =>
      obtain ⟨first, rfl, -⟩ := well.closing ip start found
      apply cell.bind_sure
      rintro _ _ ⟨rfl, rfl⟩
      refine ⟨config, if config.current = 0 then ip + 1 else first, ?_, ?_, depicts⟩
      · apply Flat.step_builtin_of_step
        simp only [Flat.step, found, Int.toNat_natCast]
      · split <;> rfl
  | command text =>
      rw [Run.exec, Run.yields_bind]
      apply (depicts.command builtin text ip).mono ?_ fun _ _ left => left
      intro _ after still
      exact ⟨_, ip + 1, by simp only [Flat.stepBuiltin, found], rfl, still⟩
  | foreign text => exact absurd found (well.known ip text)

theorem step (depicts : world.Depicts config) (offers : config.input = world.offered)
    (standing : world.StandsBehind []) (running : world.machine.halted = false) :
    Run.Yields Run.step world
      (fun _ after => ∃ (index : Nat) (reached : Config) (target : Nat), world.machine.ip = index ∧
        Flat.stepBuiltin world.machine.program.toList config index = some (reached, target) ∧
        after.Depicts reached ∧ after.machine.ip = target)
      fun _ after => ∃ left, after.Depicts left := by
  obtain ⟨index, instruction, here, found, fetched⟩ := standing.found running
  let logged : World := { world with machine := world.machine.logStep instruction }
  have noted : logged.Depicts config := { depicts with }
  rw [Run.yields_step fetched, here]
  apply (noted.exec offers standing.builtin standing.wellFormed found).mono ?_ fun _ _ left => left
  rintro next after ⟨reached, target, effect, rfl, still⟩
  exact ⟨index, reached, target, rfl, effect, { still with }, rfl⟩

end World.Depicts

/-- Nothing changes from one machine to the other but the cells, the pointer, and what was written and to
which outlet. -/
def Machine.Moves (before after : Machine) : Prop :=
  ∃ tape pointer history attached, after = { before with tape, pointer, history, attached }

theorem Machine.Moves.refl (machine : Machine) : machine.Moves machine :=
  ⟨_, machine.pointer, _, _, rfl⟩

theorem Machine.Moves.trans {first second third : Machine} (before : first.Moves second)
    (after : second.Moves third) : first.Moves third := by
  rcases before with ⟨_, _, _, _, rfl⟩
  rcases after with ⟨tape, pointer, history, attached, rfl⟩
  exact ⟨tape, pointer, history, attached, rfl⟩

namespace Run

section Moves

variable {before : Machine}

theorem keeps_moves_change {change : Machine → Machine}
    (moves : ∀ machine : Machine, machine.Moves (change machine)) :
    Keeps (fun world => before.Moves world.machine) (modifyMachine change) :=
  fun world moved => moved.trans (moves world.machine)

theorem keeps_moves_emit (bytes : Bytes) :
    Keeps (fun world => before.Moves world.machine) (emit bytes) := by
  apply keeps_emit
  · exact fun world _ moved => moved.trans ⟨_, world.machine.pointer, _, _, rfl⟩
  · exact fun world _ moved => moved.trans ⟨_, world.machine.pointer, _, _, rfl⟩

theorem keeps_moves_counted (count : Nat) (kind : Counted) :
    Keeps (fun world => before.Moves world.machine) (execCounted count kind) := by
  have update (change : UInt8 → UInt8) :
      Keeps (fun world => before.Moves world.machine) (updateCell change) :=
    keeps_machine.bind fun _ => (keeps_lift _ _).bind fun _ => (keeps_lift _ _).bind fun _ =>
      keeps_moves_change fun machine => ⟨_, machine.pointer, _, _, rfl⟩
  cases kind with
  | increment => exact update _
  | decrement => exact update _
  | shiftLeft =>
      rw [execCounted, shiftLeft]
      exact keeps_moves_change fun machine => ⟨machine.tape, _, _, _, rfl⟩
  | shiftRight =>
      rw [execCounted, shiftRight]
      exact keeps_moves_change fun machine => ⟨_, _, machine.history, _, rfl⟩

theorem keeps_moves_exec {instruction : Instruction} (ip : Int)
    (plain : ∀ text, instruction ≠ .command text) :
    Keeps (fun world => before.Moves world.machine) (exec instruction ip) := by
  have cell : Keeps (fun world => before.Moves world.machine) readCell :=
    keeps_machine.bind fun _ => keeps_lift _ _
  cases instruction with
  | counted kind count => exact (keeps_moves_counted count kind).bind fun _ => keeps_pure _
  | output => exact cell.bind fun _ => (keeps_moves_emit _).bind fun _ => keeps_pure _
  | input =>
      have read : Keeps (fun world => before.Moves world.machine) readByte := by
        apply keeps_read_byte
        · exact fun world _ moved => moved.trans ⟨_, world.machine.pointer, _, _, rfl⟩
        · exact fun _ moved => moved
      have write (byte : UInt8) : Keeps (fun world => before.Moves world.machine) (writeCell byte) :=
        keeps_machine.bind fun _ => (keeps_lift _ _).bind fun _ =>
          keeps_moves_change fun machine => ⟨_, machine.pointer, _, _, rfl⟩
      exact read.bind fun byte => (write byte).bind fun _ => keeps_pure _
  | loopStart target =>
      cases target with
      | none => exact keeps_throw _
      | some target => exact cell.bind fun _ => keeps_pure _
  | loopEnd start => exact cell.bind fun _ => keeps_pure _
  | command text => exact (plain text rfl).elim
  | foreign text => exact keeps_throw _

theorem yields_exec_moves {world : World} (builtin : world.host.services.Builtin)
    {instruction : Instruction}
    (clears : ∀ text, instruction = .command text → commandName text = "clear") (ip : Int) :
    Yields (exec instruction ip) world (fun _ after => world.machine.Moves after.machine)
      fun _ after => world.machine.Moves after.machine := by
  cases instruction with
  | command text =>
      rw [exec, yields_bind]
      unfold Yields
      rw [command_eq_builtin_command text ip builtin]
      change Yields (builtinCommand text ip) world _ _
      rw [builtinCommand, yields_bind, yields_get, yields_bind, yields_lift]
      refine ⟨?_, fun _ _ => .refl _⟩
      intro spec resolved
      rcases resolve_builtin builtin resolved with ⟨named, -⟩ | ⟨-, rfl⟩
      · rw [clears text rfl] at named
        exact absurd named (by decide)
      · have cleared : world.machine.Moves world.machine.resetTape :=
          ⟨_, world.machine.pointer, _, _, rfl⟩
        exact keeps_moves_emit _ { world with machine := world.machine.resetTape } cleared
  | _ => exact keeps_moves_exec ip (by simp) world (.refl _)

/-- A step logs its instruction, and without an include only moves from there. -/
theorem yields_step_moves {world : World} (builtin : world.host.services.Builtin)
    {instruction : Instruction} (fetched : world.machine.fetch world.machine.ip = .ok instruction)
    (clears : ∀ text, instruction = .command text → commandName text = "clear") :
    Yields step world
      (fun _ after => ∃ ip, Machine.Moves { world.machine.logStep instruction with ip } after.machine)
      fun _ after => (world.machine.logStep instruction).Moves after.machine := by
  let logged : World := { world with machine := world.machine.logStep instruction }
  have executes := @yields_exec_moves logged builtin instruction clears world.machine.ip
  rw [yields_step fetched]
  apply executes.mono ?_ fun _ _ moves => moves
  rintro next after ⟨tape, pointer, history, attached, machine⟩
  exact ⟨next, tape, pointer, history, attached, by rw [machine]⟩

end Moves

end Run

/-- The pointer stands in the cells, and what the tape has to spare is zero. -/
def World.Tidy (world : World) : Prop := ∃ config, world.Depicts config

namespace World.Tidy

variable {world : World}

theorem depicts (tidy : world.Tidy) :
    ∃ config, world.Depicts config ∧ config.input = world.offered ∧ config.output = [] := by
  obtain ⟨config, depicts⟩ := tidy
  exact ⟨{ config with input := world.offered, output := [] }, { depicts with }, rfl, rfl⟩

theorem step (tidy : world.Tidy) (standing : world.StandsBehind []) (running : world.machine.halted = false) :
    Run.Yields Run.step world (fun _ after => after.Tidy) fun _ after => after.Tidy := by
  obtain ⟨config, depicts, offers, -⟩ := tidy.depicts
  apply (depicts.step offers standing running).mono ?_ fun _ _ left => left
  rintro _ after ⟨_, reached, _, _, _, still, _⟩
  exact ⟨reached, still⟩

theorem of_inside {place : Nat} (stands : world.machine.pointer = place)
    (inside : place < world.machine.tape.size) (clean : world.machine.tape.Clean) : world.Tidy := by
  rw [← Tape.length_cells] at inside
  exact ⟨⟨world.machine.cells, place, [], [], inside⟩, rfl, stands, clean⟩

theorem of_machine {after : World} (tidy : world.Tidy) (tape : after.machine.tape = world.machine.tape)
    (pointer : after.machine.pointer = world.machine.pointer) : after.Tidy := by
  obtain ⟨config, depicts⟩ := tidy
  exact ⟨config, depicts.of_machine tape pointer⟩

theorem run (tidy : world.Tidy) (standing : world.StandsBehind []) {fuel : Nat} {outlet : Outlet}
    {ended : Ended}
    (ran : Run.run fuel outlet world = some ended) : ended.world.Tidy :=
  standing.run_keep (fun _ _ still => still.of_machine rfl rfl) step tidy ran

end World.Tidy

end TapeLang
