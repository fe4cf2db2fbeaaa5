import TapeLang.Proofs.Machine.Failure

/-!
Machines with the built-in commands on standard streams that do not fail. All that such a machine writes is
its history, it complains once about each file that it skips, and whatever leaves its run is a syntax fault
or a runtime fault.
-/

namespace TapeLang

/-- The fault says no more than that a program has failed. Only extensions and streams raise such faults. -/
def Fault.Bare : Fault → Prop
  | .program _ => True
  | _ => False

theorem Source.take_of_bytes (bytes : Bytes) :
    (ofBytes bytes).take.2 = .ofBytes bytes.tail ∧
      ∀ fault, Run.byteOf (ofBytes bytes).take.1 = .error fault → ¬fault.Bare := by
  cases bytes with
  | nil =>
      refine ⟨rfl, ?_⟩
      intro fault raised
      cases raised
      exact id
  | cons byte bytes => exact ⟨rfl, by simp [ofBytes, take, Run.byteOf]⟩

/-- On streams that raise no bare fault, an instruction that is no command raises none. -/
theorem Run.yields_exec_not_bare {world : World} {instruction : Instruction} (ip : Int)
    (ordinary : ∀ text, instruction ≠ .command text)
    (emits : ∀ bytes, Yields (emit bytes) world (fun _ _ => True) fun fault _ => ¬fault.Bare)
    (reads : Yields readByte world (fun _ _ => True) fun fault _ => ¬fault.Bare) :
    Yields (exec instruction ip) world (fun _ _ => True) fun fault _ => ¬fault.Bare := by
  have indexed {left : World} (fault : Fault) (after : World)
      (failed : left.Aside after ∧ ∃ cause, fault = .index cause) : ¬fault.Bare := by
    obtain ⟨-, cause, rfl⟩ := failed
    exact id
  cases instruction with
  | counted kind count =>
      rw [exec, yields_bind]
      exact (yields_counted_fails count kind).mono (fun _ _ _ => trivial) indexed
  | output =>
      rw [exec, yields_bind]
      apply yields_read_cell_fails.mono ?_ indexed
      rintro cell _ rfl
      rw [yields_bind]
      exact (emits [cell]).mono (fun _ _ _ => trivial) fun _ _ => id
  | input =>
      rw [exec, yields_bind]
      apply reads.mono ?_ fun _ _ => id
      intro byte middle _
      rw [yields_bind]
      exact (yields_write_cell_fails byte).mono (fun _ _ _ => trivial) indexed
  | loopStart target =>
      cases target with
      | none => exact id
      | some target =>
          rw [exec, yields_bind]
          exact yields_read_cell_fails.mono (fun _ _ _ => trivial) indexed
  | loopEnd start =>
      rw [exec, yields_bind]
      exact yields_read_cell_fails.mono (fun _ _ _ => trivial) indexed
  | command text => exact absurd rfl (ordinary text)
  | foreign text => exact id

structure World.Console (world : World) : Prop where
  builtin : world.host.services.Builtin
  attached : ∃ channel : Channel, world.machine.attached = some (.direct channel) ∧ channel.Steady
  source : ∃ bytes, world.source = .ofBytes bytes
  output : world.host.output = world.machine.history.toList
  complaints : world.host.diagnostics.size = world.machine.skipped.size

namespace World.Console

variable {world : World}

theorem emit (console : world.Console) (bytes : Bytes) :
    Run.Yields (Run.emit bytes) world (fun _ after => after.Console) fun _ _ => False := by
  obtain ⟨channel, attached, steady⟩ := console.attached
  rw [Run.yields_emit]
  refine ⟨fun idle => by simp [attached] at idle, ?_⟩
  intro outlet same
  cases attached.symm.trans same
  have wrote : (Outlet.direct channel).write bytes =
      { stream := .direct { channel with writes := channel.writes + 1 }, events := [.wrote bytes] } := by
    simp only [Outlet.write, steady.write_eq]
  have output : ((world.kept bytes).called ((Outlet.direct channel).write bytes)).host.output =
      world.machine.history.toList ++ bytes := by
    rw [wrote, ← console.output, Host.output_eq, Host.output_eq]
    simp [World.called, World.record, World.kept, StreamEvent.output]
  rw [Run.yields_settle]
  constructor
  · intro _
    exact { console with
      attached := ⟨{ channel with writes := channel.writes + 1 }, by rw [wrote]; rfl,
        steady.write, steady.flush⟩
      output := by
        rw [output]
        simp [World.called, World.record, World.kept] }
  · rw [wrote]
    simp

theorem flush (console : world.Console) :
    Run.Yields Run.flush world (fun _ after => after.Console) fun _ _ => False := by
  obtain ⟨channel, attached, steady⟩ := console.attached
  rw [Run.yields_flush]
  refine ⟨fun idle => by simp [attached] at idle, ?_⟩
  intro outlet same
  cases attached.symm.trans same
  have calm : (Outlet.direct channel).Steady := steady
  obtain ⟨after, stream⟩ := Outlet.direct_flush channel
  have still := calm.flush.2
  rw [stream] at still
  have output : (world.called (Outlet.direct channel).flush).host.output = world.host.output :=
    World.output_record_flushes _ (Outlet.direct channel).flush_events
  rw [Run.yields_settle, calm.flush.1]
  refine ⟨?_, by simp⟩
  intro _
  exact { console with
    attached := ⟨after, congrArg some stream, still⟩
    output := output.trans console.output }

theorem readByte (console : world.Console) :
    Run.Yields Run.readByte world (fun _ after => after.Console)
      fun fault after => after.Console ∧ ¬fault.Bare := by
  rw [Run.yields_read_byte]
  apply console.flush.mono ?_ fun _ _ => False.elim
  intro _ flushed still
  obtain ⟨bytes, source⟩ := still.source
  obtain ⟨rest, plain⟩ := Source.take_of_bytes bytes
  have after : flushed.afterRead.Console :=
    { still with
      source := ⟨bytes.tail, by rw [← rest, ← source]; rfl⟩
      output := by
        refine Eq.trans ?_ still.output
        rw [Host.output_eq, Host.output_eq]
        simp [World.afterRead, World.record, source, Source.ofBytes, Source.prompt?, StreamEvent.output] }
  rw [source]
  exact ⟨fun _ _ => after, fun fault raised => ⟨after, plain fault raised⟩⟩

theorem stepping :
    Run.Stepping (fun left right => left = right ∧ left.Console) fun _ => True where
  builtin := by
    rintro left right ⟨rfl, console⟩
    exact ⟨console.builtin, console.builtin⟩
  files := by
    rintro left right ⟨rfl, console⟩
    rfl
  tape := by
    rintro left right ⟨rfl, console⟩
    rfl
  pointer := by
    rintro left right ⟨rfl, console⟩
    rfl
  place := by
    rintro left right ⟨rfl, console⟩ tape pointer
    exact ⟨rfl, { console with }⟩
  event := by
    rintro left right ⟨rfl, console⟩ rule details
    exact ⟨rfl, { console with }⟩
  skip := by
    rintro left right ⟨rfl, console⟩ path fault
    refine .ok trivial ⟨rfl, { console with complaints := ?_ }⟩
    change (left.host.diagnostics.push _).size = (left.machine.skipped.push path).size
    rw [Array.size_push, Array.size_push, console.complaints]
  append := by
    rintro left right ⟨rfl, console⟩ fragment
    exact ⟨rfl, { console with }⟩
  emit := by
    rintro left right ⟨rfl, console⟩ bytes
    exact Run.matched_self (fun _ => trivial)
      ((console.emit bytes).mono (fun _ _ still => still) fun _ _ => False.elim)
  ordinary _ _ := trivial
  program := by
    rintro left right ⟨rfl, console⟩
    rfl
  ip := by
    rintro left right ⟨rfl, console⟩
    rfl
  logStep := by
    rintro left right ⟨rfl, console⟩ instruction
    exact ⟨rfl, { console with }⟩
  goTo := by
    rintro left right ⟨rfl, console⟩ ip
    exact ⟨rfl, { console with }⟩

theorem steps (console : world.Console) (fuel : Nat) :
    Run.Yields (Run.steps fuel) world (fun _ after => after.Console) fun _ after => after.Console := by
  apply Run.yields_of_matched_self
  apply stepping.steps ?_ ⟨rfl, console⟩ fuel
  rintro left right ⟨rfl, still⟩
  exact Run.matched_self (fun _ => rfl) (still.readByte.mono (fun _ _ read => read) fun _ _ read => read.1)

theorem command_fault (console : world.Console) (text : String) (ip : Int) :
    Run.Yields (Run.command text ip) world (fun _ _ => True) fun fault _ => ¬fault.Bare := by
  unfold Run.Yields
  rw [Run.command_eq_builtin_command text ip console.builtin]
  change Run.Yields (Run.builtinCommand text ip) world _ _
  rw [Run.builtinCommand, Run.yields_bind, Run.yields_get, Run.yields_bind, Run.yields_lift]
  refine ⟨?_, fun _ _ => id⟩
  intro spec resolved
  rcases Run.resolve_builtin console.builtin resolved with ⟨-, rfl⟩ | ⟨-, rfl⟩
  · apply (Run.yields_include_files _ world).mono fun _ _ _ => trivial
    rintro fault after ⟨-, badSyntax | embeddedNul⟩ <;> exact id
  · have cleared : Console { world with machine := world.machine.resetTape } := { console with }
    exact (cleared.emit [Run.clearByte]).mono (fun _ _ _ => trivial) fun _ _ => False.elim

theorem exec_fault (console : world.Console) (instruction : Instruction) (ip : Int) :
    Run.Yields (Run.exec instruction ip) world (fun _ _ => True) fun fault _ => ¬fault.Bare := by
  by_cases commands : ∃ text, instruction = .command text
  case pos =>
    obtain ⟨text, rfl⟩ := commands
    rw [Run.exec, Run.yields_bind]
    exact (console.command_fault text ip).mono (fun _ _ _ => trivial) fun _ _ plain => plain
  case neg =>
    apply Run.yields_exec_not_bare ip fun text same => commands ⟨text, same⟩
    · intro bytes
      exact (console.emit bytes).mono (fun _ _ _ => trivial) fun _ _ => False.elim
    · exact console.readByte.mono (fun _ _ _ => trivial) fun _ _ failed => failed.2

theorem steps_fault (console : world.Console) {fuel : Nat} {fault : Fault} {after : World}
    (failed : Run.steps fuel world = .error fault after) : ¬fault.Bare := by
  obtain ⟨count, before, led, -, fails⟩ := Run.steps_error failed
  have still : before.Console := (console.steps count).of_ok led
  rw [Run.step, Run.bind_eq] at fails
  cases fetched : before.machine.fetch before.machine.ip with
  | error cause =>
      change (Run.lift .index (before.machine.fetch before.machine.ip) >>= _ : Run Unit) before = _ at fails
      rw [fetched] at fails
      cases fails
      exact id
  | ok instruction =>
      have logged : Console { before with machine := before.machine.logStep instruction } := { still with }
      have stepped : Run.Yields Run.step before (fun _ _ => True) fun fault _ => ¬fault.Bare := by
        rw [Run.yields_step fetched]
        exact logged.exec_fault instruction before.machine.ip
      exact stepped.of_error fails

end World.Console

theorem Run.reported_kind (machine : Machine) {fault : Fault} (plain : ¬fault.Bare) :
    (∃ cause, reported machine fault = .badSyntax cause) ∨
      ∃ cause, reported machine fault = .runtime cause := by
  cases fault with
  | program text => exact (plain trivial).elim
  | badSyntax cause => exact .inl ⟨cause, rfl⟩
  | _ => exact .inr ⟨_, rfl⟩

/-- What a run on standard streams leaves: its output is its history, it has complained once for each path
that it skipped, and it fails with a syntax fault or a runtime fault if at all. -/
structure Ended.Console (ended : Ended) : Prop where
  output : ended.world.host.output = ended.world.machine.history.toList
  complaints : ended.world.host.diagnostics.size = ended.world.machine.skipped.size
  fault : ∀ fault, ended.fault = some fault →
    (∃ cause, fault = .badSyntax cause) ∨ ∃ cause, fault = .runtime cause

namespace Run

theorem ending_console {world : World} (console : world.Console) (outlet : Outlet)
    {failure : Option Fault} (plain : ∀ fault, failure = some fault → ¬fault.Bare) :
    (ending outlet failure world).Console := by
  have flushes := console.flush
  unfold ending
  cases flushed : flush world with
  | error fault after => exact (flushes.of_error flushed).elim
  | ok _ after =>
      have still := flushes.of_ok flushed
      refine ⟨still.output, still.complaints, ?_⟩
      intro fault reports
      obtain ⟨raised, same, rfl⟩ := Option.map_eq_some_iff.mp reports
      exact reported_kind world.machine (plain raised same)

theorem run_console {fuel : Nat} {outlet : Outlet} {world : World} {ended : Ended}
    (console : (world.attach outlet).Console) (ran : run fuel outlet world = some ended) :
    ended.Console := by
  cases halted : world.machine.halted with
  | true =>
      rw [run_of_halted fuel outlet halted] at ran
      cases ran
      exact ⟨console.output, console.complaints, by simp⟩
  | false =>
      have builtin : world.host.services.Builtin := console.builtin
      obtain ⟨failure, executed, stops, rfl⟩ := ending_of_builtin builtin ran halted
      have stepped := console.steps fuel
      cases failure with
      | none => exact ending_console (stepped.of_ok stops) outlet (by simp)
      | some fault =>
          apply ending_console (stepped.of_error stops) outlet
          intro other same
          cases same
          exact console.steps_fault stops

end Run

end TapeLang
