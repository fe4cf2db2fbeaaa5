import TapeLang.Proofs.Machine.Tracing
import TapeLang.Proofs.Tape.Strip

/-!
A machine with the built-in commands as a window on an unbounded strip. Each step does at most one deed,
which can be told before the step from the instruction and the streams: an input does nothing if the flush
before it fails or no byte comes, and a clear has cleared the tape even if what it writes is refused. After
any number of steps, failed or not, the machine shows the window on the strip on which the same was done.
-/

namespace TapeLang

def CallsClear (text : String) : Prop :=
  commandName text = "clear" ∧ commandArguments text = []

instance (text : String) : Decidable (CallsClear text) :=
  inferInstanceAs (Decidable (_ ∧ _))

namespace World

/-- The byte that an input puts on the tape, if the flush passes and the source brings one. -/
def brought (world : World) : Bytes :=
  if world.flushFault.isNone then world.offered else []

def deedsOf (world : World) : Instruction → List Deed
  | .counted kind count => [.counted kind count]
  | .input => world.brought.map .put
  | .command text => if CallsClear text then [.clear] else []
  | _ => []

def deeds (world : World) : List Deed :=
  match world.machine.fetch world.machine.ip with
  | .ok instruction => world.deedsOf instruction
  | .error _ => []

end World

def Run.deeds (fuel : Nat) (world : World) : List Deed := (visited fuel world).flatMap World.deeds

namespace Run

theorem builtin_command_eq (text : String) (ip : Int) (world : World) :
    builtinCommand text ip world =
      match resolve world.host.services.commands text ip with
      | .error fault => .error (.runtime fault) world
      | .ok spec =>
        match spec.handler with
        | .includeFiles => includeFiles (commandArguments text) world
        | .clearTape => clearTape world
        | .script _ => .ok () world := by
  rw [builtinCommand, bind_eq]
  change (lift .runtime (resolve world.host.services.commands text ip) >>= _ : Run Unit) world = _
  rw [bind_eq]
  cases resolve world.host.services.commands text ip with
  | error fault => rfl
  | ok spec =>
      change (match spec.handler with
        | .includeFiles => includeFiles (commandArguments text)
        | .clearTape => clearTape
        | .script _ => pure () : Run Unit) world = _
      dsimp only
      cases spec.handler <;> rfl

theorem command_cases (text : String) (ip : Int) {world : World} (builtin : world.host.services.Builtin) :
    (CallsClear text ∧ command text ip world = clearTape world) ∨
      (¬CallsClear text ∧ command text ip world = includeFiles (commandArguments text) world) ∨
      ¬CallsClear text ∧ ∃ fault, command text ip world = .error fault world := by
  have bound (named : commandName text = "clear") :
      world.host.services.commands.lookup (commandName text) = some Registry.clearSpec := by
    rw [named, Registry.lookup, builtin.specs]
    rfl
  rw [command_eq_builtin_command text ip builtin, builtin_command_eq]
  rcases resolve_cases world.host.services.commands text with
    ⟨unknown, refused⟩ | ⟨spec, found, ⟨unaccepted, refused⟩ | ⟨accepted, resolved⟩⟩
  · rw [refused]
    refine .inr (.inr ⟨?_, _, rfl⟩)
    rintro ⟨named, -⟩
    rcases unknown with empty | unbound
    · exact absurd (empty.symm.trans named) (by decide)
    · cases (bound named).symm.trans unbound
  · rw [refused]
    refine .inr (.inr ⟨?_, _, rfl⟩)
    rintro ⟨named, bare⟩
    cases (bound named).symm.trans found
    rw [bare] at unaccepted
    cases unaccepted
  · rw [resolved]
    rcases lookup_builtin builtin.specs found with ⟨named, rfl⟩ | ⟨named, rfl⟩
    · refine .inr (.inl ⟨?_, rfl⟩)
      rintro ⟨other, -⟩
      exact absurd (named.symm.trans other) (by decide)
    · refine .inl ⟨⟨named, ?_⟩, rfl⟩
      cases arguments : commandArguments text with
      | nil => rfl
      | cons first rest =>
          -- a clear takes no arguments
          rw [arguments] at accepted
          simp only [CommandSpec.accepts, Registry.clearSpec, Option.all_some, Bool.and_eq_true,
            decide_eq_true_eq, List.length_cons] at accepted
          omega

theorem yields_read_byte_brought (world : World) :
    Yields readByte world (fun byte _ => world.brought = [byte]) fun _ _ => world.brought = [] := by
  have read {flushed : World} (passes : world.flushFault = none) (source : flushed.source = world.source) :
      (∀ byte, byteOf flushed.source.take.1 = .ok byte → world.brought = [byte]) ∧
        ∀ fault, byteOf flushed.source.take.1 = .error fault → world.brought = [] := by
    unfold World.brought World.offered
    rw [passes, source]
    constructor
    · intro byte brought
      rw [brought]
      rfl
    · intro fault failed
      rw [failed]
      rfl
  rw [yields_read_byte, yields_flush]
  constructor
  · intro idle
    exact read (by rw [World.flushFault, idle]; rfl) rfl
  · intro outlet attached
    rw [yields_settle]
    have raises : world.flushFault = outlet.flush.fault := by
      rw [World.flushFault, attached]
      rfl
    constructor
    · intro passes
      exact read (raises.trans passes) rfl
    · intro fault fails
      rw [World.brought, raises, fails]
      rfl

end Run

namespace World.Depicts

variable {world : World} {strip : Strip} {initial : Nat}

theorem clear_strip (depicts : world.Depicts (strip.window initial)) :
    World.Depicts { world with machine := world.machine.resetTape } (strip.clear.window initial) := by
  have cleared := depicts.clear
  refine ⟨?_, cleared.pointer, cleared.clean⟩
  rw [cleared.cells]
  change List.replicate (strip.front (strip.shown initial)).length 0 =
    strip.clear.front (strip.shown initial)
  rw [Strip.length_front, Strip.front_clear]

/-- However an instruction ends, it has done its deed and nothing else to the tape. -/
theorem exec_deeds (depicts : world.Depicts (strip.window initial))
    (builtin : world.host.services.Builtin) (instruction : Instruction) (ip : Int) :
    Run.Yields (Run.exec instruction ip) world
      (fun _ after => after.Depicts ((strip.after (world.deedsOf instruction)).window initial))
      fun _ after => after.Depicts ((strip.after (world.deedsOf instruction)).window initial) := by
  have cell : Run.Yields Run.readCell world (fun _ after => after = world) fun _ _ => False := by
    unfold Run.Yields
    rw [Run.read_cell_inside depicts.pointer depicts.inside]
  cases instruction with
  | counted kind count =>
      apply (depicts.counted count kind).bind_sure
      intro _ after still
      rw [← Strip.window_times] at still
      exact still
  | output =>
      apply cell.bind_sure
      rintro byte _ rfl
      rw [Run.yields_bind]
      exact emit _ [byte] _ depicts
  | input =>
      rw [Run.exec, Run.yields_bind]
      apply (Run.Yields.both depicts.readByte (Run.yields_read_byte_brought world)).mono
      · intro byte middle read
        obtain ⟨⟨-, still⟩, brings⟩ := read
        have written := still.put byte
        rw [← Strip.window_put] at written
        rw [deedsOf, brings]
        unfold Run.Yields
        rw [Run.bind_eq, Run.write_cell_inside still.pointer still.inside]
        exact written
      · intro fault after failed
        obtain ⟨still, brings⟩ := failed
        rw [deedsOf, brings]
        exact still
  | loopStart target =>
      cases target with
      | none => exact depicts
      | some target =>
          apply cell.bind_sure
          rintro byte _ rfl
          exact depicts
  | loopEnd start =>
      apply cell.bind_sure
      rintro byte _ rfl
      exact depicts
  | command text =>
      rw [Run.exec, Run.yields_bind]
      unfold Run.Yields
      rcases Run.command_cases text ip builtin with
        ⟨clears, called⟩ | ⟨other, called⟩ | ⟨other, fault, called⟩
      · rw [called, deedsOf, if_pos clears]
        exact emit _ [Run.clearByte] _ depicts.clear_strip
      · rw [called, deedsOf, if_neg other]
        exact (Run.yields_include_files _ world).mono (fun _ _ => depicts.included)
          fun _ _ failed => depicts.noted failed.1
      · rw [called, deedsOf, if_neg other]
        exact depicts
  | foreign text => exact depicts

theorem step_deeds (depicts : world.Depicts (strip.window initial))
    (builtin : world.host.services.Builtin) :
    Run.Yields Run.step world
      (fun _ after => after.Depicts ((strip.after world.deeds).window initial))
      fun _ after => after.Depicts ((strip.after world.deeds).window initial) := by
  cases fetched : world.machine.fetch world.machine.ip with
  | error fault =>
      unfold Run.Yields
      rw [Run.step_unfetched fetched, deeds, fetched]
      exact depicts
  | ok instruction =>
      let logged : World := { world with machine := world.machine.logStep instruction }
      have noted : logged.Depicts (strip.window initial) := { depicts with }
      have same : logged.deedsOf instruction = world.deeds := by
        rw [deeds, fetched]
        cases instruction <;> rfl
      rw [Run.yields_step fetched, ← same]
      apply (noted.exec_deeds builtin instruction world.machine.ip).mono ?_ fun _ _ still => still
      intro next after still
      exact { still with }

/-- After any number of steps, however they ended, the machine shows the strip on which the same was done. -/
theorem point_deeds (depicts : world.Depicts (strip.window initial))
    (builtin : world.host.services.Builtin) (outlet : Outlet) (fuel : Nat) :
    (Run.point outlet world fuel).Depicts
      ((strip.after (Run.deeds fuel (world.attach outlet))).window initial) := by
  have begins : (world.attach outlet).Depicts (strip.window initial) := { depicts with }
  have keeps {trail : List World} {middle : World}
      (still : middle.Depicts ((strip.after (trail.flatMap World.deeds)).window initial))
      (bound : middle.host.services.Builtin) :
      Run.Yields Run.step middle
        (fun _ after => after.Depicts
          ((strip.after ((trail ++ [middle]).flatMap World.deeds)).window initial))
        fun _ after => after.Depicts
          ((strip.after ((trail ++ [middle]).flatMap World.deeds)).window initial) := by
    rw [List.flatMap_append, List.flatMap_singleton, Strip.after_append]
    exact still.step_deeds bound
  exact Run.point_along @keeps begins builtin fuel

theorem run_deeds (depicts : world.Depicts (strip.window initial))
    (builtin : world.host.services.Builtin) {outlet : Outlet} {fuel : Nat} {ended : Ended}
    (ran : Run.run fuel outlet world = some ended) :
    ended.world.Depicts ((strip.after (Run.deeds fuel (world.attach outlet))).window initial) := by
  cases halted : world.machine.halted with
  | true =>
      have stays : (world.attach outlet).machine.halted = true := halted
      rw [Run.run_of_halted fuel outlet halted] at ran
      cases ran
      rw [Run.deeds, Run.visited_of_halted fuel stays]
      exact depicts
  | false =>
      obtain ⟨failure, rfl⟩ := Run.ending_of_point builtin ran halted
      obtain ⟨attached, machine⟩ := Run.ending_machine outlet failure (Run.point outlet world fuel)
      exact (depicts.point_deeds builtin outlet fuel).of_machine (by rw [machine]) (by rw [machine])

end World.Depicts

end TapeLang
