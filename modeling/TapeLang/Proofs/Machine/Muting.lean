import TapeLang.Proofs.Machine.Coupling
import TapeLang.Proofs.Machine.Exchange

/-!
Runs on an outlet that can be flushed and on a channel that cannot. The two do the same, and the calls of
the second are those of the first without the flushes. With that the order of all calls of a run is known,
for either kind of outlet.
-/

namespace TapeLang

structure Channel.Mute (channel : Channel) : Prop where
  unable : channel.canFlush = false
  write : ∀ call, channel.writeFault call = none

def StreamEvent.lasts (event : StreamEvent) : Bool := event ≠ .flushed

namespace Muting

/-- A machine whose outlet answers, beside one with a mute channel that has recorded the same events but for
the flushes. -/
structure Beside (earlier : Array StreamEvent) (left : World) (mute : Channel)
    (events : List StreamEvent) : Prop where
  builtin : left.host.services.Builtin
  answered : left.Answered
  mute : mute.Mute
  trace : left.host.trace = earlier ++ events.toArray

def Worlds (earlier : Array StreamEvent) (left right : World) : Prop :=
  ∃ mute events, Beside earlier left mute events ∧
    right = left.beside left.machine.log (.direct mute)
      (earlier ++ (events.filter StreamEvent.lasts).toArray) left.source

variable {earlier : Array StreamEvent} {left right : World}

theorem Worlds.emit (related : Worlds earlier left right) (bytes : Bytes) :
    Run.Matched (fun _ _ => True) (Run.Shared fun _ => True) (Worlds earlier) (Run.emit bytes left)
      (Run.emit bytes right) := by
  rcases related with ⟨mute, events, beside, rfl⟩
  obtain ⟨outlet, attached, answers⟩ := beside.answered
  obtain ⟨passes, wrote, still⟩ := answers.write bytes
  have taken : (Outlet.direct mute).write bytes =
      { stream := .direct { mute with writes := mute.writes + 1 }, events := [.wrote bytes] } := by
    simp only [Outlet.write, Channel.write, beside.mute.write]
  rw [Run.emit_eq, Run.emit_eq, attached]
  change Run.Matched _ _ _ (Run.settle _ _) (Run.settle ((Outlet.direct mute).write bytes) _)
  rw [Run.settle_eq, Run.settle_eq, passes, taken]
  refine .ok trivial ⟨{ mute with writes := mute.writes + 1 }, events ++ [.wrote bytes], ?_, ?_⟩
  · refine ⟨beside.builtin, ⟨_, rfl, still⟩, ⟨beside.mute.unable, beside.mute.write⟩, ?_⟩
    simp [World.called, World.record, World.kept, beside.trace, wrote]
  · simp [World.beside, World.called, World.record, World.kept, StreamEvent.lasts]

theorem Worlds.flush (related : Worlds earlier left right) :
    ∃ leftAfter rightAfter, Run.flush left = .ok () leftAfter ∧ Run.flush right = .ok () rightAfter ∧
      Worlds earlier leftAfter rightAfter := by
  rcases related with ⟨mute, events, beside, rfl⟩
  obtain ⟨outlet, attached, answers⟩ := beside.answered
  obtain ⟨passes, flushed, still⟩ := answers.flush
  have idle : (Outlet.direct mute).flush = { stream := .direct mute } := by
    simp [Outlet.flush, beside.mute.unable]
  have calm : (Outlet.direct mute).flush.fault = none := by rw [idle]
  refine ⟨_, _, Run.flush_of_attached attached passes, Run.flush_of_attached rfl calm, mute,
    events ++ [.flushed], ?_, ?_⟩
  · refine ⟨beside.builtin, ⟨_, rfl, still⟩, beside.mute, ?_⟩
    simp [World.called, World.record, beside.trace, flushed]
  · rw [idle]
    simp [World.beside, World.called, World.record, StreamEvent.lasts]

theorem Worlds.afterRead (related : Worlds earlier left right) :
    Worlds earlier left.afterRead right.afterRead := by
  rcases related with ⟨mute, events, beside, rfl⟩
  let read : List StreamEvent := left.source.prompt?.toList.map .shown ++
    [.read (Run.byteOf left.source.take.1).toOption]
  have lasting : read.filter StreamEvent.lasts = read := by
    cases left.source.prompt? <;> simp [read, StreamEvent.lasts]
  refine ⟨mute, events ++ read, ?_, ?_⟩
  · refine ⟨beside.builtin, beside.answered, beside.mute, ?_⟩
    simp [World.afterRead, World.record, beside.trace, read]
  · rw [List.filter_append, lasting]
    simp [World.beside, World.afterRead, World.record, read]

theorem Worlds.readByte (related : Worlds earlier left right) :
    Run.Matched (· = ·) (Run.Shared fun _ => True) (Worlds earlier) (Run.readByte left)
      (Run.readByte right) := by
  obtain ⟨leftAfter, rightAfter, leftFlush, rightFlush, still⟩ := related.flush
  have after := still.afterRead
  have same : rightAfter.source = leftAfter.source := by
    rcases still with ⟨mute, events, -, rfl⟩
    rfl
  rw [Run.read_byte_eq, Run.read_byte_eq, leftFlush, rightFlush]
  dsimp only
  rw [same]
  cases Run.byteOf leftAfter.source.take.1 with
  | ok byte => exact .ok rfl after
  | error fault => exact .error ⟨rfl, trivial⟩ after

theorem lockstep : Run.Lockstep (Worlds earlier) fun _ => True where
  builtin := by
    rintro left right ⟨mute, events, beside, rfl⟩
    exact ⟨beside.builtin, beside.builtin⟩
  files := by
    rintro left right ⟨mute, events, -, rfl⟩
    rfl
  tape := by
    rintro left right ⟨mute, events, -, rfl⟩
    rfl
  pointer := by
    rintro left right ⟨mute, events, -, rfl⟩
    rfl
  place := by
    rintro left right ⟨mute, events, beside, rfl⟩ tape pointer
    exact ⟨mute, events, { beside with }, rfl⟩
  event := by
    rintro left right ⟨mute, events, beside, rfl⟩ rule details
    exact ⟨mute, events, { beside with }, rfl⟩
  skip := by
    rintro left right ⟨mute, events, beside, rfl⟩ path fault
    exact .ok trivial ⟨mute, events, { beside with }, rfl⟩
  append := by
    rintro left right ⟨mute, events, beside, rfl⟩ fragment
    exact ⟨mute, events, { beside with }, rfl⟩
  emit related bytes := related.emit bytes
  ordinary _ _ := trivial
  program := by
    rintro left right ⟨mute, events, -, rfl⟩
    rfl
  ip := by
    rintro left right ⟨mute, events, -, rfl⟩
    rfl
  logStep := by
    rintro left right ⟨mute, events, beside, rfl⟩ instruction
    exact ⟨mute, events, { beside with }, rfl⟩
  goTo := by
    rintro left right ⟨mute, events, beside, rfl⟩ ip
    exact ⟨mute, events, { beside with }, rfl⟩
  read related := related.readByte
  flush related := related.flush
  attached := by
    rintro left right ⟨mute, events, beside, rfl⟩
    obtain ⟨outlet, attached, -⟩ := beside.answered
    exact ⟨outlet, .direct mute, attached, rfl⟩

theorem begins {world : World} {outlet : Outlet} {mute : Channel} (builtin : world.host.services.Builtin)
    (answers : outlet.Answers) (silent : mute.Mute) :
    Worlds world.host.trace (world.attach outlet) (world.attach (.direct mute)) := by
  refine ⟨mute, [], ⟨builtin, ⟨outlet, rfl, answers⟩, silent, ?_⟩, ?_⟩
  · exact Array.append_empty.symm
  · simp [World.beside, World.attach]

theorem Worlds.calls {start : World} (related : Worlds start.host.trace left right)
    {made : List StreamEvent} (calls : left.host.calls = start.host.calls ++ made) :
    right.host.calls = start.host.calls ++ made.filter StreamEvent.lasts := by
  rcases related with ⟨mute, events, beside, rfl⟩
  have split : start.host.calls ++ events.filter StreamEvent.isCall = start.host.calls ++ made := by
    rw [← calls]
    simp [Host.calls, beside.trace]
  rw [← List.append_cancel_left split]
  simp [Host.calls, World.beside, List.filter_filter, Bool.and_comm]

end Muting

namespace Run

variable {world : World} {outlet : Outlet} {mute : Channel}

theorem point_calls_mute (builtin : world.host.services.Builtin) (answers : outlet.Answers)
    (silent : mute.Mute) (fuel : Nat) :
    (point (.direct mute) world fuel).host.calls =
      world.host.calls ++ (calls fuel (world.attach outlet)).filter StreamEvent.lasts := by
  have made := point_calls builtin answers fuel
  have stepped := Muting.lockstep.steps (Muting.begins builtin answers silent) fuel
  unfold point at made ⊢
  generalize steps fuel (world.attach outlet) = result at made stepped
  generalize steps fuel (world.attach (.direct mute)) = other at stepped ⊢
  cases stepped with
  | ok _ still => exact still.calls made.calls
  | error _ still => exact still.calls made.calls

theorem run_calls_mute (builtin : world.host.services.Builtin) (running : world.machine.halted = false)
    (answers : outlet.Answers) (silent : mute.Mute) (fuel : Nat) :
    (run fuel (.direct mute) world).map (·.world.host.calls) =
      (run fuel outlet world).map fun _ =>
        world.host.calls ++ (calls fuel (world.attach outlet)).filter StreamEvent.lasts := by
  have ends := Muting.lockstep.run (Muting.begins builtin answers silent) fuel
  cases ran : run fuel outlet world with
  | none =>
      rw [ran] at ends
      generalize run fuel (.direct mute) world = other at ends ⊢
      cases ends
      rfl
  | some ended =>
      have made := run_calls builtin running answers ran
      rw [ran] at ends
      generalize run fuel (.direct mute) world = other at ends ⊢
      cases ends with
      | some coupled =>
          have still := coupled.worlds.calls made
          rw [List.filter_append] at still
          exact congrArg some (still.trans (congrArg _ (List.append_nil _)))

end Run

/-- Output is visible before input blocks. Let a machine with the built-in commands that has not halted be
run on an outlet that can be flushed and does not fail. At every point of the run its calls are those of the
instructions executed so far, in their order; a run that ends, completed or failed, makes one more, a flush;
and every read comes directly after a flush. On a channel without a flush the calls are the same but for the
flushes. While the pointer stands in the cells, as it does from the start, every output writes its cell. -/
theorem output_is_flushed_before_input {world : World} {outlet : Outlet}
    (builtin : world.host.services.Builtin) (running : world.machine.halted = false)
    (answers : outlet.Answers) :
    (∀ fuel, (Run.point outlet world fuel).host.calls =
        world.host.calls ++ Run.calls fuel (world.attach outlet)) ∧
      (∀ fuel ended, Run.run fuel outlet world = some ended → ended.world.host.calls =
        world.host.calls ++ (Run.calls fuel (world.attach outlet) ++ [StreamEvent.flushed])) ∧
      (∀ fuel, FlushedReads (Run.calls fuel (world.attach outlet))) ∧
      (∀ (mute : Channel) (fuel : Nat), mute.Mute →
        (Run.point (.direct mute) world fuel).host.calls =
            world.host.calls ++ (Run.calls fuel (world.attach outlet)).filter StreamEvent.lasts ∧
          (Run.run fuel (.direct mute) world).map (·.world.host.calls) =
            (Run.run fuel outlet world).map fun _ =>
              world.host.calls ++ (Run.calls fuel (world.attach outlet)).filter StreamEvent.lasts) ∧
      (world.Tidy → ∀ fuel, ∀ before ∈ Run.visited fuel (world.attach outlet),
        before.machine.fetch before.machine.ip = .ok .output →
          ∃ (place : Nat) (cell : UInt8), before.machine.pointer = place ∧
            before.machine.cells[place]? = some cell ∧ before.calls = [.wrote [cell]]) := by
  refine ⟨fun fuel => (Run.point_calls builtin answers fuel).calls,
    fun fuel ended ran => Run.run_calls builtin running answers ran,
    fun fuel => .steps fuel _, ?_, ?_⟩
  · intro mute fuel silent
    exact ⟨Run.point_calls_mute builtin answers silent fuel,
      Run.run_calls_mute builtin running answers silent fuel⟩
  · intro tidy fuel before visits fetched
    have attached : (world.attach outlet).Tidy := tidy.of_machine rfl rfl
    exact (attached.visited builtin visits).calls_output fetched

def starvedEcho : Setup where
  program := [.input, .output, .command "clear", .input]
  source := .ofBytes [65]

/-- A program echoes the only byte of its input, clears the tape and asks for another byte. Its run fails
there, and ends with a flush all the same; on a channel without a flush it makes the other calls. -/
theorem starved_echo_is_flushed :
    ∃ (world : World) (ended muted : Ended), world.host.services.Builtin ∧
      world.machine.halted = false ∧ (Outlet.direct {}).Answers ∧
      Run.run 9 (.direct {}) world = some ended ∧ ended.verdict.isSome = true ∧
      ended.world.host.calls =
        [.flushed, .read (some 65), .wrote [65], .wrote [13], .flushed, .read none, .flushed] ∧
      Run.run 9 (.direct { canFlush := false }) world = some muted ∧
      muted.world.host.calls = [.read (some 65), .wrote [65], .wrote [13], .read none] := by
  have builtin := starvedEcho.builtin rfl
  have answers : (Outlet.direct {}).Answers := ⟨{}, rfl, ⟨fun _ => rfl, fun _ => rfl⟩, rfl⟩
  obtain ⟨-, ends, -, mutes, -⟩ := output_is_flushed_before_input builtin rfl answers
  have made : Run.calls 9 (starvedEcho.world.attach (.direct {})) =
      [.flushed, .read (some 65), .wrote [65], .wrote [13], .flushed, .read none] := by
    decide +kernel
  have shown : (Run.run 9 (.direct {}) starvedEcho.world).map (·.verdict.isSome) = some true := by
    decide +kernel
  obtain ⟨ended, ran, failed⟩ := Option.map_eq_some_iff.mp shown
  have silent := (mutes { canFlush := false } 9 ⟨rfl, fun _ => rfl⟩).2
  rw [ran, made] at silent
  obtain ⟨muted, ranMuted, calls⟩ := Option.map_eq_some_iff.mp silent
  refine ⟨_, ended, muted, builtin, rfl, answers, ran, failed, ?_, ranMuted, calls⟩
  rw [ends 9 ended ran, made]
  rfl

end TapeLang
