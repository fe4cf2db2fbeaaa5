import TapeLang.Proofs.Machine.Deeds
import TapeLang.Proofs.Machine.Writing

/-!
The order of the calls on the streams. On an outlet that can be flushed and does not fail, each step of a
machine with the built-in commands makes the calls that its instruction stands for: an output writes the
cell, an input flushes and then reads one byte, and a clear writes a carriage return. So every read comes
directly after a flush, and what a run calls last is the flush that ends it.
-/

namespace TapeLang

def StreamEvent.isCall : StreamEvent → Bool
  | .shown _ => false
  | _ => true

def Host.calls (host : Host) : List StreamEvent := host.trace.toList.filter StreamEvent.isCall

theorem World.calls_record (world : World) (events : List StreamEvent) :
    (world.record events).host.calls = world.host.calls ++ events.filter StreamEvent.isCall := by
  simp [World.record, Host.calls]

namespace World

def callsOf (world : World) : Instruction → List StreamEvent
  | .output =>
    match world.machine.tape.read world.machine.pointer with
    | .ok cell => [.wrote [cell]]
    | .error _ => []
  | .input => [.flushed, .read (Run.byteOf world.source.take.1).toOption]
  | .command text => if CallsClear text then [.wrote [Run.clearByte]] else []
  | _ => []

def calls (world : World) : List StreamEvent :=
  match world.machine.fetch world.machine.ip with
  | .ok instruction => world.callsOf instruction
  | .error _ => []

end World

def Run.calls (fuel : Nat) (world : World) : List StreamEvent := (visited fuel world).flatMap World.calls

/-- Every call on the outlet reaches a channel that can be flushed and does not fail. -/
def Outlet.Answers (outlet : Outlet) : Prop :=
  ∃ channel, outlet.channel? = some channel ∧ channel.Steady ∧ channel.canFlush = true

namespace Outlet.Answers

variable {outlet : Outlet}

theorem write (answers : outlet.Answers) (bytes : Bytes) :
    (outlet.write bytes).fault = none ∧ (outlet.write bytes).events = [.wrote bytes] ∧
      (outlet.write bytes).stream.Answers := by
  obtain ⟨channel, passes, steady, able⟩ := answers
  have still : (channel.write bytes).stream.Steady ∧ (channel.write bytes).stream.canFlush = true := by
    rw [steady.write_eq]
    exact ⟨⟨steady.write, steady.flush⟩, able⟩
  cases outlet with
  | direct inner =>
      cases passes
      simp only [Outlet.write]
      exact ⟨by rw [steady.write_eq], by rw [steady.write_eq], _, rfl, still⟩
  | tee captured sink =>
      cases passes
      simp only [Outlet.write]
      exact ⟨by rw [steady.write_eq], by rw [steady.write_eq], _, rfl, still⟩

theorem flush (answers : outlet.Answers) :
    outlet.flush.fault = none ∧ outlet.flush.events = [.flushed] ∧ outlet.flush.stream.Answers := by
  obtain ⟨channel, passes, steady, able⟩ := answers
  have still : channel.flush.stream.Steady ∧ channel.flush.stream.canFlush = true := by
    rw [steady.flush_eq]
    exact ⟨⟨steady.write, steady.flush⟩, able⟩
  cases outlet with
  | direct inner =>
      cases passes
      simp only [Outlet.flush, if_pos able]
      exact ⟨by rw [steady.flush_eq], by rw [steady.flush_eq], _, rfl, still⟩
  | tee captured sink =>
      cases passes
      simp only [Outlet.flush, if_pos able]
      exact ⟨by rw [steady.flush_eq], by rw [steady.flush_eq], _, rfl, still⟩

end Outlet.Answers

def World.Answered (world : World) : Prop :=
  ∃ outlet, world.machine.attached = some outlet ∧ outlet.Answers

structure World.Made (before : World) (calls : List StreamEvent) (after : World) : Prop where
  calls : after.host.calls = before.host.calls ++ calls
  answered : after.Answered

namespace World.Made

variable {before middle after : World} {first second : List StreamEvent}

theorem refl (answered : before.Answered) : before.Made [] before :=
  ⟨(List.append_nil _).symm, answered⟩

theorem trans (early : before.Made first middle) (late : middle.Made second after) :
    before.Made (first ++ second) after where
  calls := by rw [late.calls, early.calls, List.append_assoc]
  answered := late.answered

theorem inward (made : before.Made first middle) (inward : middle.Inward after) :
    before.Made first after := by
  rcases inward with ⟨_, _, _, _, _, _, rfl⟩
  exact ⟨made.calls, made.answered⟩

end World.Made

namespace World.Answered

variable {world : World}

theorem emit (answered : world.Answered) (bytes : Bytes) :
    Run.Yields (Run.emit bytes) world (fun _ after => world.Made [.wrote bytes] after)
      fun _ _ => False := by
  obtain ⟨outlet, attached, answers⟩ := answered
  obtain ⟨passes, events, still⟩ := answers.write bytes
  rw [Run.yields_emit, attached]
  refine ⟨by simp, ?_⟩
  intro _ same
  cases same
  rw [Run.yields_settle, passes]
  refine ⟨fun _ => ⟨?_, _, rfl, still⟩, by simp⟩
  rw [World.called, World.calls_record, events]
  rfl

theorem flush (answered : world.Answered) :
    Run.Yields Run.flush world
      (fun _ after => world.Made [.flushed] after ∧ after.source = world.source) fun _ _ => False := by
  obtain ⟨outlet, attached, answers⟩ := answered
  obtain ⟨passes, events, still⟩ := answers.flush
  rw [Run.yields_flush, attached]
  refine ⟨by simp, ?_⟩
  intro _ same
  cases same
  rw [Run.yields_settle, passes]
  refine ⟨fun _ => ⟨⟨?_, _, rfl, still⟩, rfl⟩, by simp⟩
  rw [World.called, World.calls_record, events]
  rfl

theorem readByte (answered : world.Answered) :
    Run.Yields Run.readByte world (fun _ after => world.Made (world.callsOf .input) after)
      fun _ after => world.Made (world.callsOf .input) after := by
  rw [Run.yields_read_byte]
  apply answered.flush.mono ?_ fun _ _ => False.elim
  rintro _ flushed ⟨made, source⟩
  have read : flushed.Made [.read (Run.byteOf flushed.source.take.1).toOption] flushed.afterRead := by
    refine ⟨?_, made.answered⟩
    rw [World.afterRead, World.calls_record]
    change (flushed.record _).host.calls ++ _ = _
    rw [World.calls_record]
    cases flushed.source.prompt? <;> simp [StreamEvent.isCall]
  have both := made.trans read
  rw [source] at both
  exact ⟨fun _ _ => both, fun _ _ => both⟩

/-- However an instruction ends, it has made its calls and no others. -/
theorem exec_calls (answered : world.Answered) (builtin : world.host.services.Builtin)
    (instruction : Instruction) (ip : Int) :
    Run.Yields (Run.exec instruction ip) world
      (fun _ after => world.Made (world.callsOf instruction) after)
      fun _ after => world.Made (world.callsOf instruction) after := by
  have silent := Made.refl answered
  have cell : Run.Yields Run.readCell world
      (fun byte after => after = world ∧ world.machine.tape.read world.machine.pointer = .ok byte)
      fun _ after => after = world ∧
        ∃ fault, world.machine.tape.read world.machine.pointer = .error fault := by
    rw [Run.readCell, Run.yields_bind, Run.yields_machine, Run.yields_lift]
    exact ⟨fun _ read => ⟨rfl, read⟩, fun fault failed => ⟨rfl, fault, failed⟩⟩
  cases instruction with
  | counted kind count =>
      rw [Run.exec, Run.yields_bind]
      exact (Run.yields_counted_inward count kind).mono (fun _ _ => silent.inward)
        fun _ _ => silent.inward
  | output =>
      rw [Run.exec, Run.yields_bind]
      apply cell.mono
      · rintro byte _ ⟨rfl, read⟩
        rw [Run.yields_bind, callsOf, read]
        exact (answered.emit [byte]).mono (fun _ _ made => made) fun _ _ => False.elim
      · rintro _ _ ⟨rfl, fault, failed⟩
        rw [callsOf, failed]
        exact silent
  | input =>
      rw [Run.exec, Run.yields_bind]
      apply answered.readByte.mono ?_ fun _ _ made => made
      intro byte middle made
      rw [Run.yields_bind]
      exact (Run.yields_write_cell_inward byte).mono (fun _ _ => made.inward) fun _ _ => made.inward
  | loopStart target =>
      cases target with
      | none => exact silent
      | some target =>
          rw [Run.exec, Run.yields_bind]
          apply cell.mono
          · rintro byte _ ⟨rfl, -⟩
            exact silent
          · rintro _ _ ⟨rfl, -⟩
            exact silent
  | loopEnd start =>
      rw [Run.exec, Run.yields_bind]
      apply cell.mono
      · rintro byte _ ⟨rfl, -⟩
        exact silent
      · rintro _ _ ⟨rfl, -⟩
        exact silent
  | command text =>
      rw [Run.exec, Run.yields_bind]
      unfold Run.Yields
      rcases Run.command_cases text ip builtin with
        ⟨clears, called⟩ | ⟨other, called⟩ | ⟨other, fault, called⟩
      · rw [called, callsOf, if_pos clears]
        let cleared : World := { world with machine := world.machine.resetTape }
        have still : cleared.Answered := answered
        exact (still.emit [Run.clearByte]).mono (fun _ _ made => ⟨made.calls, made.answered⟩)
          fun _ _ => False.elim
      · rw [called, callsOf, if_neg other]
        exact (Run.yields_include_files _ world).mono
          (fun _ _ included => silent.inward included.inward)
          fun _ _ failed => silent.inward failed.1.inward
      · rw [called, callsOf, if_neg other]
        exact silent
  | foreign text => exact silent

theorem step_calls (answered : world.Answered) (builtin : world.host.services.Builtin) :
    Run.Yields Run.step world (fun _ after => world.Made world.calls after)
      fun _ after => world.Made world.calls after := by
  cases fetched : world.machine.fetch world.machine.ip with
  | error fault =>
      unfold Run.Yields
      rw [Run.step_unfetched fetched, World.calls, fetched]
      exact .refl answered
  | ok instruction =>
      let logged : World := { world with machine := world.machine.logStep instruction }
      have still : logged.Answered := answered
      have same : logged.callsOf instruction = world.calls := by
        rw [World.calls, fetched]
        cases instruction <;> rfl
      rw [Run.yields_step fetched, ← same]
      apply (still.exec_calls builtin instruction world.machine.ip).mono
      · exact fun _ _ made => ⟨made.calls, made.answered⟩
      · exact fun _ _ made => ⟨made.calls, made.answered⟩

end World.Answered

namespace Run

variable {world : World} {outlet : Outlet}

/-- After any number of steps, however they ended, the calls are those of the instructions executed. -/
theorem point_calls (builtin : world.host.services.Builtin) (answers : outlet.Answers) (fuel : Nat) :
    world.Made (calls fuel (world.attach outlet)) (point outlet world fuel) := by
  have begins : world.Made [] (world.attach outlet) :=
    ⟨(List.append_nil _).symm, outlet, rfl, answers⟩
  have keeps {trail : List World} {middle : World}
      (made : world.Made (trail.flatMap World.calls) middle) (bound : middle.host.services.Builtin) :
      Yields step middle
        (fun _ after => world.Made ((trail ++ [middle]).flatMap World.calls) after)
        fun _ after => world.Made ((trail ++ [middle]).flatMap World.calls) after := by
    rw [List.flatMap_append, List.flatMap_singleton]
    exact (made.answered.step_calls bound).mono (fun _ _ more => made.trans more)
      fun _ _ more => made.trans more
  exact point_along @keeps begins builtin fuel

theorem run_calls (builtin : world.host.services.Builtin) (running : world.machine.halted = false)
    (answers : outlet.Answers) {fuel : Nat} {ended : Ended} (ran : run fuel outlet world = some ended) :
    ended.world.host.calls =
      world.host.calls ++ (calls fuel (world.attach outlet) ++ [StreamEvent.flushed]) := by
  obtain ⟨failure, rfl⟩ := ending_of_point builtin ran running
  have made := point_calls builtin answers fuel
  have flushes := made.answered.flush
  unfold ending
  cases result : flush (point outlet world fuel) with
  | error fault after => exact (flushes.of_error result).elim
  | ok _ after => exact (made.trans (flushes.of_ok result).1).calls

end Run

/-- Every read comes directly after a flush. -/
def FlushedReads (calls : List StreamEvent) : Prop :=
  ∀ front byte back, calls = front ++ StreamEvent.read byte :: back →
    ∃ earlier, front = earlier ++ [StreamEvent.flushed]

namespace FlushedReads

theorem append {first second : List StreamEvent} (early : FlushedReads first)
    (late : FlushedReads second) : FlushedReads (first ++ second) := by
  intro front byte back split
  rcases List.append_eq_append_iff.mp split with ⟨rest, rfl, tail⟩ | ⟨rest, whole, tail⟩
  · obtain ⟨earlier, rfl⟩ := late rest byte back tail
    exact ⟨first ++ earlier, (List.append_assoc _ _ _).symm⟩
  · cases rest with
    | nil =>
        -- the read is the first of the second calls, which no flush comes before
        obtain ⟨earlier, empty⟩ := late [] byte back tail.symm
        exact absurd empty (by simp)
    | cons event rest =>
        obtain ⟨rfl, -⟩ := List.cons.inj tail
        exact early front byte rest whole

theorem of_no_read {calls : List StreamEvent} (none : ∀ byte, .read byte ∉ calls) : FlushedReads calls := by
  rintro front byte back rfl
  exact absurd (List.mem_append_right front List.mem_cons_self) (none byte)

theorem of_input (byte : Option UInt8) : FlushedReads [.flushed, .read byte] := by
  intro front other back split
  match front, split with
  | [event], split =>
      obtain ⟨rfl, -⟩ := List.cons.inj split
      exact ⟨[], rfl⟩
  | _ :: _ :: rest, split => simp at split

theorem step (world : World) : FlushedReads world.calls := by
  unfold World.calls
  cases world.machine.fetch world.machine.ip with
  | error fault => exact of_no_read (by simp)
  | ok instruction =>
      cases instruction with
      | input => exact of_input _
      | output =>
          dsimp only [World.callsOf]
          cases world.machine.tape.read world.machine.pointer <;> exact of_no_read (by simp)
      | command text =>
          dsimp only [World.callsOf]
          split <;> exact of_no_read (by simp)
      | _ => exact of_no_read (by simp [World.callsOf])

theorem steps (fuel : Nat) (world : World) : FlushedReads (Run.calls fuel world) := by
  unfold Run.calls
  induction Run.visited fuel world with
  | nil => exact of_no_read (by simp)
  | cons before rest ih =>
      rw [List.flatMap_cons]
      exact (step before).append ih

end FlushedReads

namespace World.Tidy

variable {world : World}

theorem step_builtin (tidy : world.Tidy) (builtin : world.host.services.Builtin) :
    Run.Yields Run.step world (fun _ after => after.Tidy) fun _ after => after.Tidy := by
  obtain ⟨config, depicts⟩ := tidy
  have seen : world.Depicts ((Strip.ofConfig config).window config.cells.length) :=
    ⟨depicts.cells.trans (Strip.front_of_config config).symm, depicts.pointer, depicts.clean⟩
  exact (seen.step_deeds builtin).mono (fun _ _ still => ⟨_, still⟩) fun _ _ still => ⟨_, still⟩

theorem visited (tidy : world.Tidy) (builtin : world.host.services.Builtin) {fuel : Nat} {before : World}
    (found : before ∈ Run.visited fuel world) : before.Tidy := by
  obtain ⟨count, visits⟩ := List.getElem?_of_mem found
  have keeps {world after : World} (still : world.host.services.Builtin ∧ world.Tidy)
      (_ : world.machine.halted = false) (stepped : Run.step world = .ok () after) :
      after.host.services.Builtin ∧ after.Tidy := by
    have advances : Run.Advances Run.step world := Run.advances_step still.1
    exact ⟨(advances.of_ok stepped).builtin still.1, (still.2.step_builtin still.1).of_ok stepped⟩
  exact (Run.visited_keep @keeps ⟨builtin, tidy⟩ visits).1.2

theorem calls_output (tidy : world.Tidy)
    (fetched : world.machine.fetch world.machine.ip = .ok .output) :
    ∃ (place : Nat) (cell : UInt8), world.machine.pointer = place ∧
      world.machine.cells[place]? = some cell ∧ world.calls = [.wrote [cell]] := by
  obtain ⟨config, depicts⟩ := tidy
  have read := Tape.read_inside world.machine.tape depicts.inside
  have inside : config.pointer < world.machine.tape.cells.length := by
    rw [Tape.length_cells]
    exact depicts.inside
  have found := List.getElem?_eq_getElem inside
  refine ⟨config.pointer, _, depicts.pointer, found, ?_⟩
  rw [World.calls, fetched]
  dsimp only [World.callsOf]
  rw [depicts.pointer, read, List.getD_eq_getElem?_getD, found]
  rfl

end World.Tidy

end TapeLang
