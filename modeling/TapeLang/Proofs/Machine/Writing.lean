import TapeLang.Proofs.Machine.Failure

/-!
What a run writes. On a machine with the built-in commands only, an instruction writes at most one byte,
by one call on the outlet. The byte enters the history before the call, and is delivered only if the call
passes. A call that is refused ends the run at the instruction that made it, which is then about to write
the same byte again.
-/

namespace TapeLang

def StreamEvent.delivered : StreamEvent → Bytes
  | .wrote bytes => bytes
  | _ => []

def Host.delivered (host : Host) : Bytes :=
  host.trace.toList.flatMap StreamEvent.delivered

theorem World.delivered_record (world : World) (events : List StreamEvent) :
    (world.record events).host.delivered =
      world.host.delivered ++ events.flatMap StreamEvent.delivered := by
  simp [World.record, Host.delivered]

theorem World.delivered_flushes (world : World) {events : List StreamEvent}
    (flushes : ∀ event ∈ events, event = .flushed) :
    (world.record events).host.delivered = world.host.delivered := by
  rw [World.delivered_record, List.append_right_eq_self, List.flatMap_eq_nil_iff]
  intro event found
  rw [flushes event found]
  rfl

theorem World.delivered_after_read (world : World) :
    world.afterRead.host.delivered = world.host.delivered := by
  unfold World.afterRead
  rw [World.delivered_record]
  change (world.record _).host.delivered ++ _ = _
  rw [World.delivered_record]
  cases world.source.prompt? <;> simp [StreamEvent.delivered]

namespace Channel

def refusal (channel : Channel) (ahead : Nat) : Option Fault :=
  channel.writeFault (channel.writes + ahead)

def passed (channel : Channel) (bytes : Bytes) : Bytes :=
  (bytes.zipIdx.filter fun item => (channel.refusal item.2).isNone).map Prod.fst

theorem passed_append_singleton (channel : Channel) (bytes : Bytes) (byte : UInt8) :
    channel.passed (bytes ++ [byte]) =
      channel.passed bytes ++ if (channel.refusal bytes.length).isNone then [byte] else [] := by
  unfold passed
  rw [List.zipIdx_append, List.filter_append, List.map_append]
  cases raised : channel.refusal bytes.length <;> simp [List.filter, raised]

theorem passed_sublist (channel : Channel) (bytes : Bytes) :
    (channel.passed bytes).Sublist bytes := by
  have kept := (List.filter_sublist (p := fun item => (channel.refusal item.2).isNone)
    (l := bytes.zipIdx)).map Prod.fst
  rwa [List.zipIdx_map_fst] at kept

theorem passed_eq_self_iff (channel : Channel) (bytes : Bytes) :
    channel.passed bytes = bytes ↔ ∀ ahead < bytes.length, channel.refusal ahead = none := by
  have counted : (channel.passed bytes).length = bytes.length ↔
      ∀ item ∈ bytes.zipIdx, (channel.refusal item.2).isNone = true := by
    have numbered : bytes.zipIdx.length = bytes.length := List.length_zipIdx
    rw [passed, List.length_map, ← numbered]
    exact List.length_filter_eq_length_iff
  constructor
  · intro same ahead bound
    have found : (bytes[ahead], ahead) ∈ bytes.zipIdx := by simp [List.mk_mem_zipIdx_iff_getElem?]
    exact Option.isNone_iff_eq_none.mp (counted.mp (congrArg List.length same) _ found)
  · intro passes
    apply (channel.passed_sublist bytes).eq_of_length
    rw [counted]
    intro item found
    obtain ⟨bound, -⟩ := List.getElem?_eq_some_iff.mp (List.mk_mem_zipIdx_iff_getElem?.mp found)
    rw [passes item.2 bound]
    rfl

structure After (before : Channel) (calls : Nat) (after : Channel) : Prop where
  writeFault : after.writeFault = before.writeFault
  writes : after.writes = before.writes + calls

end Channel

namespace Outlet

variable {outlet : Outlet} {channel : Channel}

theorem write_channel (passes : outlet.channel? = some channel) (bytes : Bytes) :
    (outlet.write bytes).fault = channel.refusal 0 ∧
      (outlet.write bytes).events.flatMap StreamEvent.delivered =
        (if (channel.refusal 0).isNone then bytes else []) ∧
      ∃ after, (outlet.write bytes).stream.channel? = some after ∧ channel.After 1 after := by
  obtain ⟨fault, events, stream⟩ := channel.write_called bytes
  have calls : channel.After 1 (channel.write bytes).stream := by
    rw [stream]
    exact ⟨rfl, rfl⟩
  have delivers : (channel.write bytes).events.flatMap StreamEvent.delivered =
      if (channel.refusal 0).isNone then bytes else [] := by
    rw [events]
    cases raised : channel.writeFault channel.writes <;> simp [Channel.refusal, raised, StreamEvent.delivered]
  cases outlet with
  | direct inner =>
      cases passes
      exact ⟨fault, delivers, _, rfl, calls⟩
  | tee captured sink =>
      cases passes
      exact ⟨fault, delivers, _, rfl, calls⟩

theorem flush_channel (passes : outlet.channel? = some channel) :
    ∃ after, outlet.flush.stream.channel? = some after ∧ channel.After 0 after := by
  have flushed : channel.After 0 channel.flush.stream := by
    unfold Channel.flush
    split <;> exact ⟨rfl, rfl⟩
  cases outlet with
  | direct inner =>
      cases passes
      rw [flush]
      split
      · exact ⟨_, rfl, flushed⟩
      · exact ⟨channel, rfl, rfl, rfl⟩
  | tee captured sink =>
      cases passes
      rw [flush]
      split
      · exact ⟨_, rfl, flushed⟩
      · exact ⟨channel, rfl, rfl, rfl⟩

end Outlet

/-- Nothing changed that concerns the streams: only the program, the tape, the pointer and notes. -/
def World.Inward (before after : World) : Prop :=
  ∃ program tape pointer log skipped diagnostics, after =
    { before with
      machine := { before.machine with program, tape, pointer, log, skipped }
      host := { before.host with diagnostics } }

theorem World.Inward.refl (world : World) : world.Inward world := ⟨_, _, _, _, _, _, rfl⟩

theorem World.Noted.inward {before after : World} (noted : before.Noted after) :
    before.Inward after := by
  rcases noted with ⟨_, _, _, rfl⟩
  exact ⟨_, _, _, _, _, _, rfl⟩

theorem World.Included.inward {before after : World} (included : before.Included after) :
    before.Inward after := by
  rcases included with ⟨_, _, noted, _, rfl⟩
  rcases noted with ⟨_, _, _, rfl⟩
  exact ⟨_, _, _, _, _, _, rfl⟩

namespace Run

variable {world : World}

theorem yields_update_cell_inward (change : UInt8 → UInt8) :
    Yields (updateCell change) world (fun _ after => world.Inward after)
      fun _ after => world.Inward after := by
  unfold updateCell
  simp only [yields_bind, yields_machine, yields_lift, yields_modify_machine]
  exact ⟨fun _ _ => ⟨fun _ _ => ⟨_, _, _, _, _, _, rfl⟩, fun _ _ => .refl world⟩, fun _ _ => .refl world⟩

theorem yields_write_cell_inward (byte : UInt8) :
    Yields (writeCell byte) world (fun _ after => world.Inward after)
      fun _ after => world.Inward after := by
  unfold writeCell
  simp only [yields_bind, yields_machine, yields_lift, yields_modify_machine]
  exact ⟨fun _ _ => ⟨_, _, _, _, _, _, rfl⟩, fun _ _ => .refl world⟩

theorem yields_counted_inward (count : Nat) (kind : Counted) :
    Yields (execCounted count kind) world (fun _ after => world.Inward after)
      fun _ after => world.Inward after := by
  cases kind with
  | increment => exact yields_update_cell_inward _
  | decrement => exact yields_update_cell_inward _
  | shiftLeft => exact ⟨_, _, _, _, _, _, rfl⟩
  | shiftRight => exact ⟨_, _, _, _, _, _, rfl⟩

end Run

inductive World.Emits (world : World) : Instruction → UInt8 → Prop where
  | output {byte : UInt8} (read : world.machine.tape.read world.machine.pointer = .ok byte) :
      Emits world .output byte
  | clear {text : String} {spec : CommandSpec}
      (resolved : Run.resolve world.host.services.commands text world.machine.ip = .ok spec)
      (clears : spec.handler = .clearTape) : Emits world (.command text) Run.clearByte

/-- Since a start the bytes were written to the channel, each by a call of its own. All of them are in the
history, and those that passed were delivered. -/
structure World.Wrote (start : World) (channel : Channel) (bytes : Bytes) (world : World) : Prop where
  history : world.machine.history.toList = start.machine.history.toList ++ bytes
  delivered : world.host.delivered = start.host.delivered ++ channel.passed bytes
  attached : ∃ outlet current, world.machine.attached = some outlet ∧
    outlet.channel? = some current ∧ channel.After bytes.length current

namespace World.Wrote

variable {start world : World} {channel : Channel} {bytes : Bytes}

theorem attach {outlet : Outlet} (world : World) (given : outlet.channel? = some channel) :
    world.Wrote channel [] (world.attach outlet) where
  history := (List.append_nil _).symm
  delivered := (List.append_nil _).symm
  attached := ⟨outlet, channel, rfl, given, rfl, rfl⟩

theorem inward {after : World} (wrote : start.Wrote channel bytes world) (inward : world.Inward after) :
    start.Wrote channel bytes after := by
  rcases inward with ⟨_, _, _, _, _, _, rfl⟩
  exact { wrote with }

/-- A byte enters the history, and is delivered unless the call that writes it is refused. A refusal
changes nothing else of the machine. -/
theorem emit (wrote : start.Wrote channel bytes world) (byte : UInt8) :
    Run.Yields (Run.emit [byte]) world
      (fun _ after => channel.refusal bytes.length = none ∧ start.Wrote channel (bytes ++ [byte]) after)
      fun fault after => channel.refusal bytes.length = some fault ∧
        start.Wrote channel (bytes ++ [byte]) after ∧
        after.host.services = world.host.services ∧
        ∃ history attached, after.machine = { world.machine with history, attached } := by
  obtain ⟨outlet, current, attached, passes, sameFaults, sameCount⟩ := wrote.attached
  obtain ⟨fault, delivers, after, still, faults, count⟩ := outlet.write_channel passes [byte]
  have refusal : current.refusal 0 = channel.refusal bytes.length := by
    rw [Channel.refusal, Channel.refusal, sameFaults, sameCount, Nat.add_zero]
  rw [refusal] at fault delivers
  have written : start.Wrote channel (bytes ++ [byte])
      ((world.kept [byte]).called (outlet.write [byte])) := by
    refine ⟨?_, ?_, _, after, rfl, still, faults.trans sameFaults, ?_⟩
    · change (world.machine.history ++ [byte].toArray).toList = _
      rw [Array.toList_append, wrote.history, List.append_assoc]
    · have earlier := wrote.delivered
      rw [World.called, World.delivered_record, delivers, channel.passed_append_singleton,
        ← List.append_assoc, ← earlier]
      rfl
    · rw [count, sameCount, List.length_append]
      rfl
  rw [Run.yields_emit, attached]
  refine ⟨by simp, ?_⟩
  intro other same
  cases same
  rw [Run.yields_settle, fault]
  exact ⟨fun passed => ⟨passed, written⟩, fun other refused => ⟨refused, written, rfl, _, _, rfl⟩⟩

theorem flush (wrote : start.Wrote channel bytes world) :
    Run.Yields Run.flush world (fun _ after => start.Wrote channel bytes after)
      fun _ after => start.Wrote channel bytes after := by
  have flushed (outlet : Outlet) (same : world.machine.attached = some outlet) :
      start.Wrote channel bytes (world.called outlet.flush) := by
    obtain ⟨other, current, attached, passes, faults, count⟩ := wrote.attached
    cases attached.symm.trans same
    obtain ⟨after, still, sameFaults, sameCount⟩ := outlet.flush_channel passes
    refine ⟨wrote.history, ?_, outlet.flush.stream, after, rfl, still, sameFaults.trans faults,
      sameCount.trans count⟩
    rw [World.called, World.delivered_flushes _ outlet.flush_events]
    exact wrote.delivered
  rw [Run.yields_flush]
  refine ⟨fun _ => wrote, ?_⟩
  intro outlet same
  rw [Run.yields_settle]
  exact ⟨fun _ => flushed outlet same, fun _ _ => flushed outlet same⟩

theorem readByte (wrote : start.Wrote channel bytes world) :
    Run.Yields Run.readByte world (fun _ after => start.Wrote channel bytes after)
      fun _ after => start.Wrote channel bytes after := by
  rw [Run.yields_read_byte]
  apply wrote.flush.mono ?_ fun _ _ still => still
  intro _ flushed still
  have read : start.Wrote channel bytes flushed.afterRead :=
    ⟨still.history, flushed.delivered_after_read.trans still.delivered, still.attached⟩
  exact ⟨fun _ _ => read, fun _ _ => read⟩

theorem command_silent (wrote : start.Wrote channel bytes world)
    (builtin : world.host.services.Builtin) {text : String}
    (silent : ∀ byte, ¬world.Emits (.command text) byte) :
    Run.Yields (Run.command text world.machine.ip) world (fun _ after => start.Wrote channel bytes after)
      fun _ after => start.Wrote channel bytes after := by
  unfold Run.Yields
  rw [Run.command_eq_builtin_command text _ builtin]
  change Run.Yields (Run.builtinCommand text _) world _ _
  rw [Run.builtinCommand, Run.yields_bind, Run.yields_get, Run.yields_bind, Run.yields_lift]
  refine ⟨?_, fun _ _ => wrote⟩
  intro spec resolved
  cases handler : spec.handler with
  | includeFiles =>
      exact (Run.yields_include_files _ world).mono (fun _ _ included => wrote.inward included.inward)
        fun _ _ found => wrote.inward found.1.inward
  | clearTape => exact (silent _ (.clear resolved handler)).elim
  | script actions => exact wrote

theorem exec_silent (wrote : start.Wrote channel bytes world) (builtin : world.host.services.Builtin)
    {instruction : Instruction} (silent : ∀ byte, ¬world.Emits instruction byte) :
    Run.Yields (Run.exec instruction world.machine.ip) world
      (fun _ after => start.Wrote channel bytes after) fun _ after => start.Wrote channel bytes after := by
  have cell : Run.Yields Run.readCell world (fun byte after => after = world ∧
      world.machine.tape.read world.machine.pointer = .ok byte) fun _ after => after = world := by
    rw [Run.readCell, Run.yields_bind, Run.yields_machine, Run.yields_lift]
    exact ⟨fun _ read => ⟨rfl, read⟩, fun _ _ => rfl⟩
  have unread {after : World} (same : after = world) :
      start.Wrote channel bytes after := same ▸ wrote
  cases instruction with
  | counted kind count =>
      rw [Run.exec, Run.yields_bind]
      exact (Run.yields_counted_inward count kind).mono (fun _ _ => wrote.inward)
        fun _ _ => wrote.inward
  | output =>
      rw [Run.exec, Run.yields_bind]
      apply cell.mono ?_ fun _ _ => unread
      rintro byte _ ⟨-, read⟩
      exact (silent byte (.output read)).elim
  | input =>
      rw [Run.exec, Run.yields_bind]
      apply wrote.readByte.mono ?_ fun _ _ still => still
      intro byte middle still
      rw [Run.yields_bind]
      exact (Run.yields_write_cell_inward byte).mono (fun _ _ => still.inward) fun _ _ => still.inward
  | loopStart target =>
      cases target with
      | none => exact wrote
      | some target =>
          rw [Run.exec, Run.yields_bind]
          exact cell.mono (fun _ _ read => unread read.1) fun _ _ => unread
  | loopEnd target =>
      rw [Run.exec, Run.yields_bind]
      exact cell.mono (fun _ _ read => unread read.1) fun _ _ => unread
  | command text =>
      rw [Run.exec, Run.yields_bind]
      exact (wrote.command_silent builtin silent).mono (fun _ _ still => still) fun _ _ still => still
  | foreign text => exact wrote

/-- An instruction that is about to write makes one call, and is still about to write if that is refused. -/
theorem exec_emits (wrote : start.Wrote channel bytes world) (builtin : world.host.services.Builtin)
    {instruction : Instruction} {byte : UInt8} (emits : world.Emits instruction byte) :
    Run.Yields (Run.exec instruction world.machine.ip) world
      (fun _ after => channel.refusal bytes.length = none ∧ start.Wrote channel (bytes ++ [byte]) after)
      fun fault after => channel.refusal bytes.length = some fault ∧
        start.Wrote channel (bytes ++ [byte]) after ∧ after.Emits instruction byte ∧
        after.machine.program = world.machine.program ∧ after.machine.ip = world.machine.ip := by
  cases emits with
  | output read =>
      rw [Run.exec, Run.readCell]
      simp only [Run.yields_bind, Run.yields_machine, Run.yields_lift, read]
      refine ⟨?_, by simp⟩
      intro cell same
      cases same
      apply (wrote.emit byte).mono (fun _ _ done => done)
      rintro fault after ⟨refused, written, -, history, attached, machine⟩
      refine ⟨refused, written, .output ?_, ?_, ?_⟩ <;> rw [machine]
      exact read
  | @clear text spec resolved clears =>
      have cleared : start.Wrote channel bytes { world with machine := world.machine.resetTape } :=
        wrote.inward ⟨_, _, _, _, _, _, rfl⟩
      rw [Run.exec, Run.yields_bind]
      unfold Run.Yields
      rw [Run.command_eq_builtin_command text _ builtin]
      change Run.Yields (Run.builtinCommand text _) world _ _
      rw [Run.builtinCommand]
      simp only [Run.yields_bind, Run.yields_get, Run.yields_lift, resolved]
      refine ⟨?_, by simp⟩
      intro other same
      cases same
      rw [clears]
      apply (cleared.emit Run.clearByte).mono (fun _ _ done => done)
      rintro fault after ⟨refused, written, services, history, attached, machine⟩
      refine ⟨refused, written, .clear ?_ clears, ?_, ?_⟩
      · rw [machine, services]
        exact resolved
      · rw [machine]
        rfl
      · rw [machine]
        rfl

end World.Wrote

def World.Due (world : World) (byte : UInt8) : Prop :=
  ∃ (index : Nat) (instruction : Instruction), world.machine.ip = index ∧
    world.machine.program.toList[index]? = some instruction ∧ world.Emits instruction byte

def Channel.Passes (channel : Channel) (calls : Nat) : Prop :=
  ∀ ahead < calls, channel.refusal ahead = none

/-- The last of the bytes was refused and no other, and the machine is about to write it again. -/
def World.Owes (world : World) (channel : Channel) (bytes : Bytes) : Prop :=
  ∃ front byte fault, bytes = front ++ [byte] ∧ channel.Passes front.length ∧
    channel.refusal front.length = some fault ∧ world.Due byte

theorem World.Emits.unique {world : World} {instruction : Instruction} {first second : UInt8}
    (one : world.Emits instruction first) (other : world.Emits instruction second) : first = second := by
  cases one with
  | output read =>
      cases other with
      | output same => exact Except.ok.inj (read.symm.trans same)
  | clear _ _ =>
      cases other with
      | clear _ _ => rfl

theorem World.Due.running {world : World} {byte : UInt8} (due : world.Due byte) :
    world.machine.halted = false := by
  obtain ⟨index, instruction, here, found, -⟩ := due
  have inside := (List.getElem?_eq_some_iff.mp found).1
  rw [Machine.halted_eq_false]
  omega

theorem World.Due.of_machine {before after : World} {byte : UInt8} (due : before.Due byte)
    {attached : Option Outlet} (machine : after.machine = { before.machine with attached })
    (services : after.host.services = before.host.services) : after.Due byte := by
  obtain ⟨index, instruction, here, found, emits⟩ := due
  refine ⟨index, instruction, by rw [machine]; exact here, by rw [machine]; exact found, ?_⟩
  cases emits with
  | output read =>
      refine .output ?_
      rw [machine]
      exact read
  | clear resolved clears =>
      refine .clear ?_ clears
      rw [machine, services]
      exact resolved

namespace Channel.Passes

variable {channel : Channel} {calls : Nat}

theorem zero (channel : Channel) : channel.Passes 0 := nofun

theorem succ (passes : channel.Passes calls) (next : channel.refusal calls = none) :
    channel.Passes (calls + 1) := by
  intro ahead bound
  rcases Nat.lt_succ_iff_lt_or_eq.mp bound with earlier | rfl
  · exact passes ahead earlier
  · exact next

end Channel.Passes

namespace World.Wrote

variable {start world : World} {channel : Channel} {bytes : Bytes}

/-- A step writes the byte that is due, and nothing if none is. -/
theorem step (wrote : start.Wrote channel bytes world) (standing : world.StandsBehind [])
    (passes : channel.Passes bytes.length) (running : world.machine.halted = false) :
    Run.Yields Run.step world
      (fun _ after => ∃ more, start.Wrote channel (bytes ++ more) after ∧
        channel.Passes (bytes ++ more).length ∧ ∀ byte, world.Due byte → more = [byte])
      fun _ after => ∃ more, start.Wrote channel (bytes ++ more) after ∧
        (channel.Passes (bytes ++ more).length ∨ after.Owes channel (bytes ++ more)) ∧
        ∀ byte, world.Due byte → more = [byte] := by
  obtain ⟨index, instruction, here, found, fetched⟩ := standing.found running
  have emits_of_due {byte : UInt8} (due : world.Due byte) : world.Emits instruction byte := by
    obtain ⟨other, there, at_, same, emits⟩ := due
    rw [here] at at_
    cases at_
    cases found.symm.trans same
    exact emits
  let logged : World := { world with machine := world.machine.logStep instruction }
  have noted : start.Wrote channel bytes logged := wrote.inward ⟨_, _, _, _, _, _, rfl⟩
  rw [Run.yields_step fetched]
  by_cases writes : ∃ byte, world.Emits instruction byte
  case neg =>
    have silent : ∀ byte, ¬logged.Emits instruction byte := by
      intro byte emits
      apply writes
      cases emits with
      | output read => exact ⟨_, .output read⟩
      | clear resolved clears => exact ⟨_, .clear resolved clears⟩
    have nothing : ∀ byte, world.Due byte → ([] : Bytes) = [byte] :=
      fun byte due => (writes ⟨byte, emits_of_due due⟩).elim
    apply (noted.exec_silent standing.builtin silent).mono
    · intro next after still
      exact ⟨[], by rw [List.append_nil]; exact { still with }, by simpa using passes, nothing⟩
    · intro fault after still
      exact ⟨[], by rw [List.append_nil]; exact still, .inl (by simpa using passes), nothing⟩
  case pos =>
    obtain ⟨byte, emits⟩ := writes
    have due : ∀ other, world.Due other → [byte] = [other] :=
      fun other due => congrArg ([·]) (emits.unique (emits_of_due due))
    have about : logged.Emits instruction byte := by
      cases emits with
      | output read => exact .output read
      | clear resolved clears => exact .clear resolved clears
    apply (noted.exec_emits standing.builtin about).mono
    · rintro next after ⟨passed, written⟩
      refine ⟨[byte], { written with }, ?_, due⟩
      rw [List.length_append]
      exact passes.succ passed
    · rintro fault after ⟨refused, written, still, program, ip⟩
      refine ⟨[byte], written, .inr ⟨bytes, byte, fault, rfl, passes, refused, ?_⟩, due⟩
      exact ⟨index, instruction, ip.trans here, by rw [program]; exact found, still⟩

theorem steps (wrote : start.Wrote channel bytes world) (standing : world.StandsBehind []) {outlet : Outlet}
    (mutes : world.Mutes outlet) (passes : channel.Passes bytes.length) (fuel : Nat) :
    Run.Yields (Run.steps fuel) world
      (fun _ after => ∃ more, start.Wrote channel (bytes ++ more) after ∧
        channel.Passes (bytes ++ more).length)
      fun _ after => ∃ more, start.Wrote channel (bytes ++ more) after ∧
        (channel.Passes (bytes ++ more).length ∨ after.Owes channel (bytes ++ more)) := by
  have nothing : start.Wrote channel (bytes ++ []) world ∧ channel.Passes (bytes ++ []).length := by
    rw [List.append_nil]
    exact ⟨wrote, passes⟩
  induction fuel generalizing world bytes with
  | zero => exact ⟨[], nothing⟩
  | succ fuel ih =>
      cases halted : world.machine.halted with
      | true =>
          rw [Run.yields_steps_of_halted fuel halted]
          exact ⟨[], nothing⟩
      | false =>
          rw [Run.yields_steps_of_running fuel halted]
          apply ((wrote.step standing passes halted).and (standing.step .nil mutes halted)).mono
          · rintro _ middle ⟨⟨first, written, passed, -⟩, still, stillMutes⟩
            have rest := ih written still stillMutes passed (by rw [List.append_nil]; exact ⟨written, passed⟩)
            simp only [List.append_assoc] at rest
            exact rest.mono (fun _ _ ⟨more, done⟩ => ⟨first ++ more, done⟩)
              fun _ _ ⟨more, failed⟩ => ⟨first ++ more, failed⟩
          · rintro fault after ⟨more, written, ends, -⟩
            exact ⟨more, written, ends⟩

end World.Wrote

structure Ended.Wrote (world : World) (channel : Channel) (bytes : Bytes) (ended : Ended) : Prop where
  history : ended.world.machine.history.toList = world.machine.history.toList ++ bytes
  delivered : ended.world.host.delivered = world.host.delivered ++ channel.passed bytes
  left : ∃ left, ended.outlet.channel? = some left ∧ channel.After bytes.length left
  ends : channel.Passes bytes.length ∨ ended.world.Owes channel bytes
  first : ∀ byte, world.Due byte → bytes.head? = some byte

namespace Run

theorem ending_wrote {start executed : World} {channel : Channel} {bytes : Bytes} (outlet : Outlet)
    (failure : Option Fault) (wrote : start.Wrote channel bytes executed) :
    (ending outlet failure executed).world.machine.history.toList =
        start.machine.history.toList ++ bytes ∧
      (ending outlet failure executed).world.host.delivered =
        start.host.delivered ++ channel.passed bytes ∧
      ∃ left, (ending outlet failure executed).outlet.channel? = some left ∧
        channel.After bytes.length left := by
  have flushes := wrote.flush
  unfold ending
  cases result : flush executed with
  | ok _ after =>
      have still := flushes.of_ok result
      obtain ⟨current, left, attached, passes, calls⟩ := still.attached
      have last : (after.machine.attached.getD outlet).channel? = some left := by
        rw [attached]
        exact passes
      exact ⟨still.history, still.delivered, left, last, calls⟩
  | error fault after =>
      have still := flushes.of_error result
      obtain ⟨current, left, attached, passes, calls⟩ := still.attached
      have last : (after.machine.attached.getD outlet).channel? = some left := by
        rw [attached]
        exact passes
      exact ⟨still.history, still.delivered, left, last, calls⟩

theorem steps_wrote {fuel : Nat} {outlet : Outlet} {channel : Channel} {world executed : World}
    {failure : Option Fault} (standing : world.StandsBehind []) (given : outlet.channel? = some channel)
    (running : world.machine.halted = false)
    (stops : steps fuel (world.attach outlet) = stopped failure executed) :
    ∃ bytes, world.Wrote channel bytes executed ∧
      (channel.Passes bytes.length ∨ executed.Owes channel bytes) ∧
      ∀ byte, world.Due byte → bytes.head? = some byte := by
  have begins := World.Wrote.attach world given
  have mutes := World.mutes_attach outlet world
  have runs : (world.attach outlet).machine.halted = false := running
  -- the byte due comes with the first step; the other steps only write behind it
  cases fuel with
  | zero =>
      rw [steps_zero, runs] at stops
      cases failure <;> cases stops
  | succ fuel =>
      have due {byte : UInt8} (same : world.Due byte) : (world.attach outlet).Due byte :=
        same.of_machine rfl rfl
      have stepped := (begins.step (standing.attach outlet) (.zero channel) runs).and
        ((standing.attach outlet).step .nil mutes runs)
      rw [steps_succ_of_running fuel runs, bind_eq] at stops
      cases result : step (world.attach outlet) with
      | error fault after =>
          rw [result] at stops
          obtain ⟨more, written, ends, first⟩ := stepped.of_error result
          cases failure with
          | none => cases stops
          | some raised =>
              cases stops
              refine ⟨more, written, ends, ?_⟩
              intro byte same
              rw [first byte (due same)]
              rfl
      | ok _ middle =>
          rw [result] at stops
          obtain ⟨⟨front, written, passed, first⟩, still, stillMutes⟩ := stepped.of_ok result
          have rest := written.steps still stillMutes passed fuel
          have head (more : Bytes) (byte : UInt8) (same : world.Due byte) :
              ([] ++ front ++ more).head? = some byte := by
            rw [first byte (due same)]
            rfl
          cases failure with
          | none =>
              obtain ⟨more, all, passes⟩ := rest.of_ok stops
              exact ⟨_, all, .inl passes, head more⟩
          | some raised =>
              obtain ⟨more, all, ends⟩ := rest.of_error stops
              exact ⟨_, all, ends, head more⟩

/-- A run writes bytes one by one, beginning with the one that is due, until a call is refused. -/
theorem run_wrote {fuel : Nat} {outlet : Outlet} {channel : Channel} {world : World} {ended : Ended}
    (standing : world.StandsBehind []) (given : outlet.channel? = some channel)
    (ran : run fuel outlet world = some ended) : ∃ bytes, ended.Wrote world channel bytes := by
  cases halted : world.machine.halted with
  | true =>
      rw [run_of_halted fuel outlet halted] at ran
      cases ran
      refine ⟨[], (List.append_nil _).symm, (List.append_nil _).symm, ⟨channel, given, rfl, rfl⟩,
        .inl (.zero channel), ?_⟩
      intro byte due
      cases halted.symm.trans due.running
  | false =>
      obtain ⟨failure, executed, stops, rfl⟩ := ending_of_builtin standing.builtin ran halted
      obtain ⟨bytes, wrote, ends, first⟩ := steps_wrote standing given halted stops
      obtain ⟨history, delivered, left⟩ := ending_wrote outlet failure wrote
      refine ⟨bytes, history, delivered, left, ?_, first⟩
      refine ends.imp_right ?_
      rintro ⟨front, byte, fault, same, passes, refused, due⟩
      obtain ⟨attached, machine⟩ := ending_machine outlet failure executed
      exact ⟨front, byte, fault, same, passes, refused,
        due.of_machine machine (ending_later outlet failure executed).services⟩

end Run

end TapeLang
