import TapeLang.Proofs.Machine.Ending
import TapeLang.Proofs.Stream.Calls

/-!
Two machines with the built-in commands that do the same although their streams, logs or inputs differ. A
relation between worlds is a coupling when each primitive that an instruction is made of keeps it; then
every instruction keeps it, comes to the same value and fails with the same fault. When the relation also
fixes the program and the index, whole runs keep it.
-/

namespace TapeLang

def Fault.Starves : Fault → Prop
  | .runtime fault => fault.cause = .inputEnded
  | _ => False

def Fault.unnumbered : Fault → Fault
  | .runtime fault => .runtime { fault with step := none }
  | fault => fault

def StreamEvent.output : StreamEvent → Bytes
  | .wrote bytes => bytes
  | .shown text => Text.encode text
  | .flushed => []
  | .read _ => []

theorem Host.output_eq (host : Host) : host.output = host.trace.toList.flatMap StreamEvent.output := by
  unfold Host.output
  apply congrArg (List.flatMap · host.trace.toList)
  funext event
  cases event <;> rfl

theorem Outlet.silent_flush (outlet : Outlet) :
    outlet.flush.events.flatMap StreamEvent.output = [] := by
  rw [List.flatMap_eq_nil_iff]
  intro event found
  rw [outlet.flush_events event found]
  rfl

def World.beside (world : World) (log : StepLog UInt8) (outlet : Outlet) (trace : Array StreamEvent)
    (source : Source) : World :=
  { machine := { world.machine with log, attached := some outlet }
    source
    host := { world.host with trace } }

def World.place (world : World) (tape : Tape) (pointer : Int) : World :=
  { world with machine := { world.machine with tape, pointer } }

namespace Run

def Shared (faults : Fault → Prop) (left right : Fault) : Prop :=
  left = right ∧ faults right

structure Coupling (worlds : World → World → Prop) (faults : Fault → Prop) : Prop where
  builtin : ∀ {left right : World}, worlds left right →
    left.host.services.Builtin ∧ right.host.services.Builtin
  files : ∀ {left right : World}, worlds left right → left.host.files = right.host.files
  tape : ∀ {left right : World}, worlds left right → left.machine.tape = right.machine.tape
  pointer : ∀ {left right : World}, worlds left right → left.machine.pointer = right.machine.pointer
  place : ∀ {left right : World}, worlds left right → ∀ tape pointer,
    worlds (left.place tape pointer) (right.place tape pointer)
  event : ∀ {left right : World}, worlds left right → ∀ rule details,
    worlds { left with machine := left.machine.logEvent rule details }
      { right with machine := right.machine.logEvent rule details }
  skip : ∀ {left right : World}, worlds left right → ∀ path fault,
    Matched (fun _ _ => True) (Shared faults) worlds (skipFile path fault left)
      (skipFile path fault right)
  append : ∀ {left right : World}, worlds left right → ∀ fragment,
    worlds { left with machine := left.machine.append fragment }
      { right with machine := right.machine.append fragment }
  emit : ∀ {left right : World}, worlds left right → ∀ bytes,
    Matched (fun _ _ => True) (Shared faults) worlds (emit bytes left) (emit bytes right)
  /-- Everything that an instruction itself raises is allowed; only a read can be starved. -/
  ordinary : ∀ fault : Fault, ¬fault.Starves → faults fault

namespace Coupling

variable {worlds : World → World → Prop} {faults : Fault → Prop} {left right : World}

theorem get_machine (coupling : Coupling worlds faults) (related : worlds left right) :
    Matched (fun first second => first.tape = second.tape ∧ first.pointer = second.pointer)
      (Shared faults) worlds (machine left) (machine right) :=
  .ok ⟨coupling.tape related, coupling.pointer related⟩ related

theorem liftIndex (coupling : Coupling worlds faults) (related : worlds left right)
    (value : Except IndexFault α) :
    Matched (· = ·) (Shared faults) worlds (lift .index value left) (lift .index value right) := by
  cases value with
  | ok result => exact .ok rfl related
  | error cause => exact .error ⟨rfl, coupling.ordinary _ id⟩ related

theorem withTape (coupling : Coupling worlds faults) (related : worlds left right) (tape : Tape) :
    worlds (left.withTape tape) (right.withTape tape) := by
  have same : right.place tape left.machine.pointer = right.withTape tape := by
    rw [coupling.pointer related]
    rfl
  rw [← same]
  exact coupling.place related tape left.machine.pointer

theorem update_cell (coupling : Coupling worlds faults) (related : worlds left right)
    (change : UInt8 → UInt8) :
    Matched (fun _ _ => True) (Shared faults) worlds (updateCell change left)
      (updateCell change right) := by
  apply (coupling.get_machine related).bind
  intro first second left right same related
  rw [same.1, same.2]
  apply (coupling.liftIndex related _).bind
  intro cell other left right same related
  subst same
  apply (coupling.liftIndex related _).bind
  intro tape other left right same related
  subst same
  exact matched_modify_machine (coupling.withTape related tape)

theorem write_cell (coupling : Coupling worlds faults) (related : worlds left right) (byte : UInt8) :
    Matched (fun _ _ => True) (Shared faults) worlds (writeCell byte left) (writeCell byte right) := by
  apply (coupling.get_machine related).bind
  intro first second left right same related
  rw [same.1, same.2]
  apply (coupling.liftIndex related _).bind
  intro tape other left right same related
  subst same
  exact matched_modify_machine (coupling.withTape related tape)

theorem read_cell (coupling : Coupling worlds faults) (related : worlds left right) :
    Matched (· = ·) (Shared faults) worlds (readCell left) (readCell right) := by
  apply (coupling.get_machine related).bind
  intro first second left right same related
  rw [same.1, same.2]
  exact coupling.liftIndex related _

theorem counted (coupling : Coupling worlds faults) (related : worlds left right) (count : Nat)
    (kind : Counted) :
    Matched (fun _ _ => True) (Shared faults) worlds (execCounted count kind left)
      (execCounted count kind right) := by
  have tape := coupling.tape related
  have pointer := coupling.pointer related
  cases kind with
  | increment => exact coupling.update_cell related _
  | decrement => exact coupling.update_cell related _
  | shiftLeft =>
      unfold execCounted shiftLeft
      apply matched_modify_machine
      change worlds
        (left.place left.machine.tape
          (if left.machine.pointer < count then 0 else left.machine.pointer - count))
        (right.place right.machine.tape
          (if right.machine.pointer < count then 0 else right.machine.pointer - count))
      rw [tape, pointer]
      exact coupling.place related _ _
  | shiftRight =>
      unfold execCounted shiftRight
      apply matched_modify_machine
      change worlds
        (left.place (left.machine.tape.grow (left.machine.pointer + count + 1).toNat)
          (left.machine.pointer + count))
        (right.place (right.machine.tape.grow (right.machine.pointer + count + 1).toNat)
          (right.machine.pointer + count))
      rw [tape, pointer]
      exact coupling.place related _ _

theorem clear_tape (coupling : Coupling worlds faults) (related : worlds left right) :
    Matched (fun _ _ => True) (Shared faults) worlds (clearTape left) (clearTape right) := by
  have same : left.machine.tape.clear = right.machine.tape.clear :=
    congrArg Tape.clear (coupling.tape related)
  have cleared : Matched (fun _ _ => True) (Shared faults) worlds
      (modifyMachine (·.resetTape) left) (modifyMachine (·.resetTape) right) := by
    apply matched_modify_machine
    change worlds (left.withTape left.machine.tape.clear) (right.withTape right.machine.tape.clear)
    rw [same]
    exact coupling.withTape related _
  exact cleared.bind fun _ _ _ _ _ still => coupling.emit still _

theorem load_files (coupling : Coupling worlds faults) (paths : List String)
    (loaded : List Instruction) (related : worlds left right) :
    Matched (· = ·) (Shared faults) worlds (loadFiles loaded paths left)
      (loadFiles loaded paths right) := by
  induction paths generalizing loaded left right with
  | nil => exact .ok rfl related
  | cons path rest ih =>
      have looked : Matched (fun first second => first.host.files = second.host.files)
          (Shared faults) worlds ((get : Run World) left) ((get : Run World) right) :=
        .ok (coupling.files related) related
      apply looked.bind
      intro first second left right same related
      rw [same]
      cases opened : second.host.files.read path with
      | ok source =>
          apply (matched_lift .badSyntax (parse source path .normal) related
            fun fault _ => ⟨rfl, coupling.ordinary _ id⟩).bind
          intro fragment other left right same related
          rcases same with ⟨rfl, -⟩
          have logged : Matched (fun _ _ => True) (Shared faults) worlds
              (modifyMachine (·.logEvent "INCLUDE" [("path", .str path)]) left)
              (modifyMachine (·.logEvent "INCLUDE" [("path", .str path)]) right) :=
            matched_modify_machine (coupling.event related _ _)
          exact logged.bind fun _ _ _ _ _ still => ih _ still
      | error fault =>
          rcases read_error opened with ⟨reason, rfl⟩ | ⟨-, rfl⟩
          · exact (coupling.skip related path reason).bind fun _ _ _ _ _ still => ih loaded still
          · exact .error ⟨rfl, coupling.ordinary _ id⟩ related

theorem include_files (coupling : Coupling worlds faults) (related : worlds left right)
    (paths : List String) :
    Matched (fun _ _ => True) (Shared faults) worlds (includeFiles paths left)
      (includeFiles paths right) := by
  apply (coupling.load_files paths [] related).bind
  intro loaded other left right same still
  subst same
  exact matched_modify_machine (coupling.append still loaded)

theorem command (coupling : Coupling worlds faults) (related : worlds left right) (text : String)
    (ip : Int) :
    Matched (fun _ _ => True) (Shared faults) worlds (command text ip left)
      (command text ip right) := by
  obtain ⟨leftBuiltin, rightBuiltin⟩ := coupling.builtin related
  rw [command_eq_builtin_command _ _ leftBuiltin, command_eq_builtin_command _ _ rightBuiltin]
  have looked : Matched
      (fun first second => first.host.services.commands = second.host.services.commands)
      (Shared faults) worlds ((get : Run World) left) ((get : Run World) right) :=
    .ok (congrArg Registry.mk (leftBuiltin.specs.trans rightBuiltin.specs.symm)) related
  apply looked.bind
  intro first second left right same related
  rw [same]
  have resolved : ∀ fault, resolve second.host.services.commands text ip = .error fault →
      ¬(Fault.runtime fault).Starves := by
    intro fault failed starves
    rcases resolve_cases second.host.services.commands text with
      ⟨-, refused⟩ | ⟨spec, -, ⟨-, refused⟩ | ⟨-, found⟩⟩
    · cases (refused ip).symm.trans failed
      cases starves
    · cases (refused ip).symm.trans failed
      cases starves
    · cases (found ip).symm.trans failed
  apply (matched_lift .runtime _ related
    fun fault failed => ⟨rfl, coupling.ordinary _ (resolved fault failed)⟩).bind
  intro spec other left right same still
  rcases same with ⟨rfl, -⟩
  cases spec.handler with
  | includeFiles => exact coupling.include_files still _
  | clearTape => exact coupling.clear_tape still
  | script actions => exact .ok trivial still

/-- An instruction does the same to both worlds. For a read this has to be known, since the inputs may
differ. -/
theorem exec (coupling : Coupling worlds faults) (related : worlds left right)
    (instruction : Instruction) (ip : Int)
    (reads : instruction = .input →
      Matched (· = ·) (Shared faults) worlds (readByte left) (readByte right)) :
    Matched (· = ·) (Shared faults) worlds (exec instruction ip left) (exec instruction ip right) := by
  cases instruction with
  | counted kind count =>
      exact (coupling.counted related count kind).bind fun _ _ _ _ _ still => .ok rfl still
  | output =>
      apply (coupling.read_cell related).bind
      intro cell other left right same still
      subst same
      exact (coupling.emit still [cell]).bind fun _ _ _ _ _ after => .ok rfl after
  | input =>
      apply (reads rfl).bind
      intro byte other left right same still
      subst same
      exact (coupling.write_cell still byte).bind fun _ _ _ _ _ after => .ok rfl after
  | loopStart target =>
      cases target with
      | none => exact .error ⟨rfl, coupling.ordinary _ (by simp [Fault.Starves])⟩ related
      | some target =>
          apply (coupling.read_cell related).bind
          intro cell other left right same still
          subst same
          exact .ok rfl still
  | loopEnd start =>
      apply (coupling.read_cell related).bind
      intro cell other left right same still
      subst same
      exact .ok rfl still
  | command text =>
      exact (coupling.command related text ip).bind fun _ _ _ _ _ still => .ok rfl still
  | foreign text => exact .error ⟨rfl, coupling.ordinary _ (by simp [Fault.Starves])⟩ related

end Coupling

/-- A coupling of two machines at the same place of the same program. -/
structure Stepping (worlds : World → World → Prop) (faults : Fault → Prop) : Prop
    extends Coupling worlds faults where
  program : ∀ {left right : World}, worlds left right → left.machine.program = right.machine.program
  ip : ∀ {left right : World}, worlds left right → left.machine.ip = right.machine.ip
  logStep : ∀ {left right : World}, worlds left right → ∀ instruction,
    worlds { left with machine := left.machine.logStep instruction }
      { right with machine := right.machine.logStep instruction }
  goTo : ∀ {left right : World}, worlds left right → ∀ ip,
    worlds { left with machine := { left.machine with ip } }
      { right with machine := { right.machine with ip } }

namespace Stepping

variable {worlds : World → World → Prop} {faults : Fault → Prop} {left right : World}

theorem halted_eq (stepping : Stepping worlds faults) (related : worlds left right) :
    left.machine.halted = right.machine.halted := by
  unfold Machine.halted
  rw [stepping.program related, stepping.ip related]

theorem fetch_eq (stepping : Stepping worlds faults) (related : worlds left right) :
    left.machine.fetch left.machine.ip = right.machine.fetch right.machine.ip := by
  unfold Machine.fetch
  rw [stepping.program related, stepping.ip related]

/-- A step with the same instruction on both sides, from worlds that correspond once it is logged. -/
theorem step_fetched (stepping : Stepping worlds faults) {instruction : Instruction}
    (leftFetched : left.machine.fetch left.machine.ip = .ok instruction)
    (rightFetched : right.machine.fetch right.machine.ip = .ok instruction)
    (logged : worlds { left with machine := left.machine.logStep instruction }
      { right with machine := right.machine.logStep instruction })
    (reads : instruction = .input →
      Matched (· = ·) (Shared faults) worlds
        (readByte { left with machine := left.machine.logStep instruction })
        (readByte { right with machine := right.machine.logStep instruction })) :
    Matched (fun _ _ => True) (Shared faults) worlds (step left) (step right) := by
  have same : left.machine.ip = right.machine.ip := (stepping.ip logged :)
  rw [step_eq leftFetched, step_eq rightFetched, same]
  apply (stepping.exec logged instruction _ reads).bind
  intro next other left right same still
  subst same
  exact matched_modify_machine (stepping.goTo still next)

theorem step (stepping : Stepping worlds faults) (related : worlds left right)
    (reads : left.machine.fetch left.machine.ip = .ok .input →
      Matched (· = ·) (Shared faults) worlds
        (readByte { left with machine := left.machine.logStep .input })
        (readByte { right with machine := right.machine.logStep .input })) :
    Matched (fun _ _ => True) (Shared faults) worlds (step left) (step right) := by
  cases fetched : left.machine.fetch left.machine.ip with
  | error fault =>
      rw [step_unfetched fetched, step_unfetched ((stepping.fetch_eq related).symm.trans fetched)]
      exact .error ⟨rfl, stepping.ordinary _ id⟩ related
  | ok instruction =>
      apply stepping.step_fetched fetched ((stepping.fetch_eq related).symm.trans fetched)
        (stepping.logStep related instruction)
      intro same
      subst same
      exact reads fetched

theorem steps (stepping : Stepping worlds faults)
    (reads : ∀ {left right : World}, worlds left right →
      Matched (· = ·) (Shared faults) worlds (readByte left) (readByte right))
    (related : worlds left right) (fuel : Nat) :
    Matched (· = ·) (Shared faults) worlds (steps fuel left) (steps fuel right) := by
  induction fuel generalizing left right with
  | zero => exact .ok (stepping.halted_eq related) related
  | succ fuel ih =>
      have same := stepping.halted_eq related
      cases halted : right.machine.halted with
      | true =>
          rw [steps_succ_of_halted fuel (same.trans halted), steps_succ_of_halted fuel halted]
          exact .ok rfl related
      | false =>
          rw [steps_succ_of_running fuel (same.trans halted), steps_succ_of_running fuel halted]
          apply (stepping.step related fun _ => reads (stepping.logStep related .input)).bind
          intro _ _ left right _ still
          exact ih still

end Stepping

theorem reported_unnumbered {left right : Machine} (ip : left.ip = right.ip) (fault : Fault) :
    (reported left fault).unnumbered = (reported right fault).unnumbered := by
  cases fault with
  | runtime fault => simp only [reported, locate, Fault.unnumbered, ip]
  | _ => simp [reported, locate, Fault.unnumbered, Fault.ofProgram, ip]

end Run

/-- How coupled runs end: when the outlets are put back the worlds correspond, and the faults are the
same but for the number of the step. -/
structure Ended.Coupled (worlds : World → World → Prop) (left right : Ended) : Prop where
  worlds : worlds (left.world.attach left.outlet) (right.world.attach right.outlet)
  fault : left.fault.map Fault.unnumbered = right.fault.map Fault.unnumbered

namespace Run

structure Lockstep (worlds : World → World → Prop) (faults : Fault → Prop) : Prop
    extends Stepping worlds faults where
  read : ∀ {left right : World}, worlds left right →
    Matched (· = ·) (Shared faults) worlds (readByte left) (readByte right)
  flush : ∀ {left right : World}, worlds left right →
    ∃ leftAfter rightAfter, flush left = .ok () leftAfter ∧ flush right = .ok () rightAfter ∧
      worlds leftAfter rightAfter
  attached : ∀ {left right : World}, worlds left right →
    ∃ outlet other, left.machine.attached = some outlet ∧ right.machine.attached = some other

namespace Lockstep

variable {worlds : World → World → Prop} {faults : Fault → Prop} {left right : World}

theorem steps (lockstep : Lockstep worlds faults) (related : worlds left right) (fuel : Nat) :
    Matched (· = ·) (Shared faults) worlds (steps fuel left) (steps fuel right) :=
  lockstep.toStepping.steps lockstep.read related fuel

theorem ending (lockstep : Lockstep worlds faults) (related : worlds left right)
    (outlet other : Outlet) (failure : Option Fault) :
    Ended.Coupled worlds (ending outlet failure left) (ending other failure right) := by
  obtain ⟨leftAfter, rightAfter, leftFlush, rightFlush, still⟩ := lockstep.flush related
  obtain ⟨flushed, flushedToo, leftAttached, rightAttached⟩ := lockstep.attached still
  have reattached (world : World) {outlet : Outlet} (same : world.machine.attached = some outlet) :
      World.attach { world with machine := { world.machine with attached := none } } outlet = world := by
    unfold World.attach
    rw [← same]
  have verdict : (failure.map (reported left.machine)).map Fault.unnumbered =
      (failure.map (reported right.machine)).map Fault.unnumbered := by
    cases failure with
    | none => rfl
    | some fault => exact congrArg some (reported_unnumbered (lockstep.ip related) fault)
  unfold Run.ending
  rw [leftFlush, rightFlush]
  refine ⟨?_, verdict⟩
  dsimp only
  rw [leftAttached, rightAttached, Option.getD_some, Option.getD_some, reattached _ leftAttached,
    reattached _ rightAttached]
  exact still

theorem close (lockstep : Lockstep worlds faults) (outlet other : Outlet)
    {leftResult rightResult : EStateM.Result Fault World Bool}
    (stepped : Matched (· = ·) (Shared faults) worlds leftResult rightResult) :
    Option.Rel (Ended.Coupled worlds) (close outlet leftResult) (close other rightResult) := by
  cases stepped with
  | error shared still =>
      rcases shared with ⟨rfl, -⟩
      exact .some (lockstep.ending still outlet other _)
  | @ok finished _ _ _ same still =>
      cases same
      cases finished with
      | false => exact .none
      | true => exact .some (lockstep.ending still outlet other none)

theorem run (lockstep : Lockstep worlds faults) {outlet other : Outlet}
    (related : worlds (left.attach outlet) (right.attach other)) (fuel : Nat) :
    Option.Rel (Ended.Coupled worlds) (run fuel outlet left) (run fuel other right) := by
  have leftBuiltin : left.host.services.Builtin := (lockstep.builtin related).1
  have rightBuiltin : right.host.services.Builtin := (lockstep.builtin related).2
  have stopped : left.machine.halted = right.machine.halted := (lockstep.halted_eq related :)
  cases halted : right.machine.halted with
  | true =>
      rw [run_of_halted fuel outlet (stopped.trans halted), run_of_halted fuel other halted]
      exact .some ⟨related, rfl⟩
  | false =>
      rw [run_of_running fuel outlet leftBuiltin (stopped.trans halted),
        run_of_running fuel other rightBuiltin halted]
      exact lockstep.close outlet other (lockstep.steps related fuel)

end Lockstep

end Run

end TapeLang
