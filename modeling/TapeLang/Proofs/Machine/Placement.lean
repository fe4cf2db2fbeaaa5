import TapeLang.Proofs.Machine.Ending
import TapeLang.Proofs.Stream.Calls

/-!
Where a fragment stands does not matter. A machine that has come to the end of its program and is given
a fragment goes on as one that holds the fragment alone: step for step the two do the same to the tape
and the streams, and their instruction indexes differ by the length of what stands before the fragment.
This stays so while includes make both programs grow, and when a step fails.
-/

namespace TapeLang

def Parallel (before before' after after' : Array α) : Prop :=
  ∃ added, after = before ++ added ∧ after' = before' ++ added

theorem Parallel.refl (left right : Array α) : Parallel left right left right :=
  ⟨#[], by simp, by simp⟩

theorem Parallel.append {before before' after after' : Array α}
    (parallel : Parallel before before' after after') (added : Array α) :
    Parallel before before' (after ++ added) (after' ++ added) := by
  rcases parallel with ⟨earlier, rfl, rfl⟩
  exact ⟨earlier ++ added, Array.append_assoc, Array.append_assoc⟩

theorem Parallel.push {before before' after after' : Array α}
    (parallel : Parallel before before' after after') (entry : α) :
    Parallel before before' (after.push entry) (after'.push entry) := by
  simpa using parallel.append #[entry]

structure Displacement where
  front : List Instruction
  placed : World
  alone : World
  raised : Fault → Prop

namespace Displacement

/-- The machine whose fragment is placed behind the front, and the one that holds the fragment alone:
the instruction index is larger by the length of the front, and all else that can be seen is the
same or has grown by the same. -/
structure Worlds (shift : Displacement) (placed alone : World) : Prop where
  program : placed.machine.program.toList =
    shift.front ++ relocate shift.front.length alone.machine.program.toList
  ip : placed.machine.ip = alone.machine.ip + shift.front.length
  pointer : placed.machine.pointer = alone.machine.pointer
  tape : placed.machine.tape.Alike alone.machine.tape
  source : placed.source = alone.source
  files : placed.host.files = alone.host.files
  history : Parallel shift.placed.machine.history shift.alone.machine.history
    placed.machine.history alone.machine.history
  skipped : Parallel shift.placed.machine.skipped shift.alone.machine.skipped
    placed.machine.skipped alone.machine.skipped
  trace : Parallel shift.placed.host.trace shift.alone.host.trace placed.host.trace alone.host.trace
  diagnostics : Parallel shift.placed.host.diagnostics shift.alone.host.diagnostics
    placed.host.diagnostics alone.host.diagnostics

structure Running (shift : Displacement) (placed alone : World) : Prop
    extends shift.Worlds placed alone where
  wellFormed : WellFormed alone.machine.program.toList
  index : ∃ index : Nat, alone.machine.ip = index
  inside : ∃ place : Nat, alone.machine.pointer = place ∧ place < alone.machine.tape.size
  attached : placed.machine.attached = alone.machine.attached
  placedBuiltin : placed.host.services.Builtin
  aloneBuiltin : alone.host.services.Builtin
  outletFaults : ∀ outlet, alone.machine.attached = some outlet →
    ∀ fault, outlet.Raises fault → shift.raised fault
  sourceFaults : ∀ fault, alone.source.Raises fault → shift.raised fault

def Brought (shift : Displacement) (left right : Fault) : Prop :=
  left = right ∧ shift.raised right

/-- The faults of corresponding steps: the same fault, which names no instruction unless a stream
raised it, or faults that name corresponding instructions. -/
inductive Thrown (shift : Displacement) : Fault → Fault → Prop where
  | nowhere (fault : Fault) (unplaced : ∀ runtime, fault = .runtime runtime → runtime.ip = none) :
      Thrown shift fault fault
  | brought (fault : Fault) (raised : shift.raised fault) : Thrown shift fault fault
  | located (cause : RuntimeCause) (ip : Int) (rule : Option String) (step : Option Int) :
      Thrown shift (.runtime { cause, ip := some (ip + shift.front.length), rule, step })
        (.runtime { cause, ip := some ip, rule, step })

/-- The faults of corresponding runs: faults of the same kind at corresponding instructions, a fault
that has no place in a program, or a runtime fault that a stream raised. The number of the step is left
open, since it counts all that the machine has logged. -/
inductive Moved (shift : Displacement) : Fault → Fault → Prop where
  | located (cause : RuntimeCause) (ip : Int) (rule : Option String) (step step' : Option Int) :
      Moved shift (.runtime { cause, ip := some (ip + shift.front.length), rule, step })
        (.runtime { cause, ip := some ip, rule, step := step' })
  | plain (fault : Fault) (unplaced : ∀ runtime, fault ≠ .runtime runtime) : Moved shift fault fault
  | brought (fault : RuntimeFault) (raised : shift.raised (.runtime fault)) (step step' : Option Int) :
      Moved shift (.runtime { fault with step }) (.runtime { fault with step := step' })

theorem Worlds.halted_eq {shift : Displacement} {placed alone : World}
    (worlds : shift.Worlds placed alone) :
    placed.machine.halted = alone.machine.halted := by
  have length : (placed.machine.program.size : Int) =
      (alone.machine.program.size : Int) + (shift.front.length : Int) := by
    rw [← Array.length_toList, worlds.program, List.length_append, length_relocate,
      Array.length_toList]
    omega
  unfold Machine.halted
  rw [worlds.ip, length, decide_eq_decide]
  omega

theorem Brought.thrown {shift : Displacement} {left right : Fault} (brought : shift.Brought left right) :
    shift.Thrown left right := by
  rcases brought with ⟨rfl, raised⟩
  exact .brought left raised

theorem Brought.moved {shift : Displacement} {left right : Fault} (brought : shift.Brought left right) :
    shift.Moved left right := by
  rcases brought with ⟨rfl, raised⟩
  cases left with
  | runtime fault => exact .brought fault raised fault.step fault.step
  | _ => exact .plain _ (by simp)

namespace Running

variable {shift : Displacement} {placed alone : World}

theorem logReport (running : shift.Running placed alone) (left right : StepLog.Report UInt8) :
    shift.Running { placed with machine := placed.machine.logReport left }
      { alone with machine := alone.machine.logReport right } :=
  { running with }

theorem withTape (running : shift.Running placed alone) {left right : Tape}
    (alike : left.Alike right) (size : alone.machine.tape.size ≤ right.size) :
    shift.Running (placed.withTape left) (alone.withTape right) :=
  { running with
    tape := alike
    inside := by
      rcases running.inside with ⟨place, stands, inside⟩
      exact ⟨place, stands, Nat.lt_of_lt_of_le inside size⟩ }

theorem kept (running : shift.Running placed alone) (bytes : Bytes) :
    shift.Running (placed.kept bytes) (alone.kept bytes) :=
  { running with history := running.history.append _ }

theorem called (running : shift.Running placed alone) {called : Called Outlet}
    (faults : ∀ fault, called.stream.Raises fault → shift.raised fault) :
    shift.Running (placed.called called) (alone.called called) :=
  { running with
    attached := rfl
    trace := running.trace.append _
    outletFaults := by
      intro outlet attached
      cases attached
      exact faults }

theorem afterRead (running : shift.Running placed alone) :
    shift.Running placed.afterRead alone.afterRead :=
  { running with
    source := congrArg (·.take.2) running.source
    trace := by
      simp only [World.afterRead, World.record, running.source]
      exact (running.trace.append _).append _
    sourceFaults := fun fault raises => running.sourceFaults fault (Source.raises_of_take.2 raises) }

/-- Appending the same fragment to both programs keeps them together: it is moved by both lengths in
the one and by the length of the rest alone in the other. -/
theorem append (running : shift.Running placed alone) {fragment : List Instruction}
    (well : WellFormed fragment) :
    shift.Running { placed with machine := placed.machine.append fragment }
      { alone with machine := alone.machine.append fragment } :=
  { running with
    program := by
      have length : (placed.machine.program.toList.length : Int) =
          (alone.machine.program.toList.length : Int) + (shift.front.length : Int) := by
        rw [running.program, List.length_append, length_relocate]
        omega
      rw [Machine.append_program, Machine.append_program, length, ← relocate_relocate,
        relocate_append, ← List.append_assoc, ← running.program]
    wellFormed := by
      rw [Machine.append_program]
      exact running.wellFormed.append well }

theorem goTo (running : shift.Running placed alone) {left right : Int} (target : ∃ index : Nat, right = index)
    (moved : left = right + shift.front.length) :
    shift.Running { placed with machine := { placed.machine with ip := left } }
      { alone with machine := { alone.machine with ip := right } } :=
  { running with ip := moved, index := target }

end Running

end Displacement

theorem Run.byte_of_error {delivery : Delivery} {fault : Fault} (failed : byteOf delivery = .error fault) :
    (∀ runtime, fault = .runtime runtime → runtime.ip = none) ∨ delivery = .failure fault := by
  fun_cases byteOf delivery with
  | case1 byte => cases failed
  | case2 c fits => simp [byteOf, fits] at failed
  | case3 c large =>
      simp only [byteOf, if_neg large, Except.error.injEq] at failed
      exact .inl (by simp [← failed])
  | case4 => cases failed; exact .inl (by simp)
  | case5 reason => cases failed; exact .inl (by simp)
  | case6 other notFile =>
      right
      unfold byteOf at failed
      split at failed <;> simp_all

namespace Run

variable {shift : Displacement} {placed alone : World}

theorem matched_settle (running : shift.Running placed alone) (called : Called Outlet)
    (raised : ∀ fault, called.fault = some fault → shift.raised fault)
    (faults : ∀ fault, called.stream.Raises fault → shift.raised fault) :
    Matched (fun _ _ => True) shift.Brought shift.Running (settle called placed)
      (settle called alone) := by
  rw [settle_eq, settle_eq]
  cases failed : called.fault with
  | none => exact .ok trivial (running.called faults)
  | some fault => exact .error ⟨rfl, raised fault failed⟩ (running.called faults)

theorem matched_emit (running : shift.Running placed alone) (bytes : Bytes) :
    Matched (fun _ _ => True) shift.Thrown shift.Running (emit bytes placed) (emit bytes alone) := by
  rw [emit_eq, emit_eq, running.attached]
  cases attached : alone.machine.attached with
  | none => exact .ok trivial (running.kept bytes)
  | some outlet =>
      have known := running.outletFaults outlet attached
      have settled := matched_settle (running.kept bytes) (outlet.write bytes)
        (fun fault raised => known fault (Outlet.raises_of_write.1 raised))
        fun fault raises => known fault (Outlet.raises_of_write.2 raises)
      exact settled.mono (fun _ _ brought => brought.thrown) fun _ _ still => still

theorem matched_flush (running : shift.Running placed alone) :
    Matched (fun _ _ => True) shift.Brought shift.Running (flush placed) (flush alone) := by
  rw [flush_eq, flush_eq, running.attached]
  cases attached : alone.machine.attached with
  | none => exact .ok trivial running
  | some outlet =>
      have known := running.outletFaults outlet attached
      exact matched_settle running outlet.flush
        (fun fault raised => known fault (Outlet.raises_of_flush.1 raised))
        fun fault raises => known fault (Outlet.raises_of_flush.2 raises)

theorem matched_read_byte (running : shift.Running placed alone) :
    Matched (· = ·) shift.Thrown shift.Running (readByte placed) (readByte alone) := by
  have flushes := matched_flush running
  rw [read_byte_eq, read_byte_eq]
  generalize flush placed = left at flushes
  generalize flush alone = right at flushes
  cases flushes with
  | error brought still => exact .error brought.thrown still
  | @ok _ _ left right _ still =>
      dsimp only
      rw [still.source]
      cases read : byteOf right.source.take.1 with
      | ok byte => exact .ok rfl still.afterRead
      | error fault =>
          apply Matched.error _ still.afterRead
          rcases byte_of_error read with unplaced | brought
          · exact .nowhere fault unplaced
          · exact .brought fault (still.sourceFaults fault (Source.raises_of_take.1 brought))

theorem matched_read_cell (running : shift.Running placed alone) :
    Matched (· = ·) shift.Thrown shift.Running (readCell placed) (readCell alone) := by
  rcases running.inside with ⟨place, stands, inside⟩
  have size := running.tape.size_eq
  rw [read_cell_inside (running.pointer.trans stands) (size ▸ inside), read_cell_inside stands inside,
    running.tape.cells_eq]
  exact .ok rfl running

theorem matched_write_cell (running : shift.Running placed alone) (byte : UInt8) :
    Matched (fun _ _ => True) shift.Thrown shift.Running (writeCell byte placed)
      (writeCell byte alone) := by
  rcases running.inside with ⟨place, stands, inside⟩
  have size := running.tape.size_eq
  rw [write_cell_inside (running.pointer.trans stands) (size ▸ inside), write_cell_inside stands inside]
  exact .ok trivial (running.withTape (running.tape.put inside byte) (Nat.le_refl _))

theorem matched_update_cell (running : shift.Running placed alone) (change : UInt8 → UInt8) :
    Matched (fun _ _ => True) shift.Thrown shift.Running (updateCell change placed)
      (updateCell change alone) := by
  rcases running.inside with ⟨place, stands, inside⟩
  have size := running.tape.size_eq
  rw [update_cell_inside (running.pointer.trans stands) (size ▸ inside),
    update_cell_inside stands inside, running.tape.cells_eq]
  exact .ok trivial (running.withTape (running.tape.put inside _) (Nat.le_refl _))

theorem matched_counted (running : shift.Running placed alone) (count : Nat) (kind : Counted) :
    Matched (fun _ _ => True) shift.Thrown shift.Running (execCounted count kind placed)
      (execCounted count kind alone) := by
  rcases running.inside with ⟨place, stands, inside⟩
  cases kind with
  | increment => exact matched_update_cell running _
  | decrement => exact matched_update_cell running _
  | shiftLeft =>
      unfold execCounted shiftLeft
      apply matched_modify_machine
      refine { running with pointer := ?_, inside := ⟨place - count, ?_, ?_⟩ }
      · simp only [running.pointer]
      · dsimp only
        rw [stands]
        split <;> omega
      · dsimp only
        omega
  | shiftRight =>
      unfold execCounted shiftRight
      apply matched_modify_machine
      refine { running with pointer := ?_, tape := ?_, inside := ⟨place + count, ?_, ?_⟩ }
      · simp only [running.pointer]
      · simp only [running.pointer]
        exact running.tape.grow _
      · simp [stands]
      · dsimp only
        rw [Tape.size_grow, stands]
        omega

theorem matched_clear_tape (running : shift.Running placed alone) :
    Matched (fun _ _ => True) shift.Thrown shift.Running (clearTape placed) (clearTape alone) := by
  have cleared : Matched (fun _ _ => True) shift.Thrown shift.Running
      (modifyMachine (·.resetTape) placed) (modifyMachine (·.resetTape) alone) :=
    matched_modify_machine (running.withTape running.tape.clear (Nat.le_refl _))
  exact cleared.bind fun _ _ _ _ _ still => matched_emit still _

theorem matched_skip_file (running : shift.Running placed alone) (path : String) (fault : FileFault) :
    Matched (fun _ _ => True) shift.Thrown shift.Running (skipFile path fault placed)
      (skipFile path fault alone) :=
  .ok trivial
    { running with
      skipped := running.skipped.push path
      diagnostics := running.diagnostics.push _ }

theorem matched_load_files (paths : List String) {loaded : List Instruction} (well : WellFormed loaded)
    (running : shift.Running placed alone) :
    Matched (fun left right => left = right ∧ WellFormed right) shift.Thrown shift.Running
      (loadFiles loaded paths placed) (loadFiles loaded paths alone) := by
  induction paths generalizing loaded placed alone with
  | nil => exact .ok ⟨rfl, well⟩ running
  | cons path rest ih =>
      have looked : Matched (fun left right => left.host.files = right.host.files) shift.Thrown
          shift.Running ((get : Run World) placed) ((get : Run World) alone) :=
        .ok running.files running
      apply looked.bind
      intro seen other placed alone same running
      rw [same]
      cases opened : other.host.files.read path with
      | ok source =>
          apply (matched_lift .badSyntax _ running fun fault _ => .nowhere _ (by simp)).bind ?_
          intro fragment other left right same parsed
          rcases same with ⟨rfl, accepted⟩
          have logged : Matched (fun _ _ => True) shift.Thrown shift.Running
              (modifyMachine (·.logEvent "INCLUDE" [("path", .str path)]) left)
              (modifyMachine (·.logEvent "INCLUDE" [("path", .str path)]) right) :=
            matched_modify_machine (parsed.logReport _ _)
          exact logged.bind fun _ _ _ _ _ still => ih (well.append (.of_parse accepted)) still
      | error fault =>
          rcases read_error opened with ⟨reason, rfl⟩ | ⟨-, rfl⟩
          · exact (matched_skip_file running path reason).bind fun _ _ _ _ _ still => ih well still
          · exact .error (.nowhere _ (by simp)) running

theorem matched_include_files (running : shift.Running placed alone) (paths : List String) :
    Matched (fun _ _ => True) shift.Thrown shift.Running (includeFiles paths placed)
      (includeFiles paths alone) := by
  apply (matched_load_files paths .nil running).bind
  intro loaded other left right same still
  rcases same with ⟨rfl, well⟩
  exact matched_modify_machine (still.append well)

theorem matched_command (running : shift.Running placed alone) (text : String) (ip : Int) :
    Matched (fun _ _ => True) shift.Thrown shift.Running
      (command text (ip + shift.front.length) placed) (command text ip alone) := by
  rw [command_eq_builtin_command _ _ running.placedBuiltin,
    command_eq_builtin_command _ _ running.aloneBuiltin]
  have specs := running.placedBuiltin.specs.trans running.aloneBuiltin.specs.symm
  have looked : Matched (fun left right => left.host.services.commands = right.host.services.commands)
      shift.Thrown shift.Running ((get : Run World) placed) ((get : Run World) alone) :=
    .ok (congrArg Registry.mk specs) running
  apply looked.bind
  intro seen other placed alone same running
  rw [same]
  rcases resolve_cases other.host.services.commands text with
    ⟨-, refused⟩ | ⟨spec, -, ⟨-, refused⟩ | ⟨-, resolved⟩⟩
  · rw [refused, refused]
    exact .error (.located _ ip _ none) running
  · rw [refused, refused]
    exact .error (.located _ ip _ none) running
  · rw [resolved, resolved]
    apply (matched_lift .runtime (.ok spec) running (by simp)).bind
    intro spec other left right same still
    rcases same with ⟨rfl, -⟩
    cases spec.handler with
    | includeFiles => exact matched_include_files still _
    | clearTape => exact matched_clear_tape still
    | script actions => exact .ok trivial still

/-- Corresponding instructions do the same and go on to corresponding instructions. -/
theorem matched_exec (running : shift.Running placed alone) {instruction : Instruction} {index : Nat}
    (found : alone.machine.program.toList[index]? = some instruction) :
    Matched
      (fun left right : Int => (∃ target : Nat, right = target) ∧ left = right + shift.front.length)
      shift.Thrown shift.Running
      (exec (instruction.relocate shift.front.length) ((index : Int) + shift.front.length) placed)
      (exec instruction index alone) := by
  have following : (∃ target : Nat, (index : Int) + 1 = target) ∧
      (index : Int) + shift.front.length + 1 = (index : Int) + 1 + shift.front.length :=
    ⟨⟨index + 1, by simp⟩, by omega⟩
  cases instruction with
  | counted kind count =>
      exact (matched_counted running count kind).bind fun _ _ _ _ _ still => .ok following still
  | output =>
      apply (matched_read_cell running).bind
      intro cell other left right same still
      subst same
      exact (matched_emit still [cell]).bind fun _ _ _ _ _ after => .ok following after
  | input =>
      apply (matched_read_byte running).bind
      intro byte other left right same still
      subst same
      exact (matched_write_cell still byte).bind fun _ _ _ _ _ after => .ok following after
  | loopStart target =>
      obtain ⟨past, rfl, -⟩ := running.wellFormed.opening index target found
      apply (matched_read_cell running).bind
      intro cell other left right same still
      subst same
      apply Matched.ok _ still
      split
      · exact ⟨⟨past, rfl⟩, rfl⟩
      · exact following
  | loopEnd start =>
      obtain ⟨first, rfl, -⟩ := running.wellFormed.closing index start found
      apply (matched_read_cell running).bind
      intro cell other left right same still
      subst same
      apply Matched.ok _ still
      split
      · exact following
      · exact ⟨⟨first, rfl⟩, rfl⟩
  | command text =>
      exact (matched_command running text index).bind fun _ _ _ _ _ still => .ok following still
  | foreign text => exact absurd found (running.wellFormed.known index text)

theorem matched_step (running : shift.Running placed alone)
    (active : alone.machine.halted = false) :
    Matched (fun _ _ => True) shift.Thrown shift.Running (step placed) (step alone) := by
  rcases running.index with ⟨index, here⟩
  have inside : index < alone.machine.program.toList.length := by
    have bound := Machine.halted_eq_false.mp active
    omega
  have found := List.getElem?_eq_getElem inside
  generalize alone.machine.program.toList[index] = instruction at found
  have placedFound : placed.machine.program.toList[shift.front.length + index]? =
      some (instruction.relocate shift.front.length) := by
    rw [running.program, List.getElem?_append_right (Nat.le_add_right _ _), Nat.add_sub_cancel_left,
      get_relocate, found]
    rfl
  have there : placed.machine.ip = ((shift.front.length + index : Nat) : Int) := by
    rw [running.ip, here]
    omega
  have fetched := alone.machine.fetch_inside found
  have placedFetched := placed.machine.fetch_inside placedFound
  rw [← here] at fetched
  rw [← there] at placedFetched
  rw [step_eq fetched, step_eq placedFetched, running.ip, here]
  apply (matched_exec (running.logReport _ _) found).bind
  intro next target left right goes still
  exact matched_modify_machine (still.goTo goes.1 goes.2)

theorem matched_steps (fuel : Nat) (running : shift.Running placed alone) :
    Matched (· = ·) shift.Thrown shift.Running (steps fuel placed) (steps fuel alone) := by
  induction fuel generalizing placed alone with
  | zero => exact .ok running.halted_eq running
  | succ fuel ih =>
      cases halted : alone.machine.halted with
      | true =>
          rw [steps_succ_of_halted fuel (running.halted_eq.trans halted),
            steps_succ_of_halted fuel halted]
          exact .ok rfl running
      | false =>
          rw [steps_succ_of_running fuel (running.halted_eq.trans halted),
            steps_succ_of_running fuel halted]
          exact (matched_step running halted).bind fun _ _ _ _ _ still => ih still

end Run

namespace Displacement

structure Endings (shift : Displacement) (placed alone : Ended) : Prop where
  worlds : shift.Worlds placed.world alone.world
  outlet : placed.outlet = alone.outlet
  verdict : Option.Rel shift.Moved placed.verdict alone.verdict
  fault : Option.Rel shift.Moved placed.fault alone.fault

variable {shift : Displacement} {placed alone : World}

theorem moved_of_other (worlds : shift.Worlds placed alone) {fault : Fault}
    (other : ∀ runtime, fault ≠ .runtime runtime) :
    shift.Moved (Run.reported placed.machine fault) (Run.reported alone.machine fault) := by
  have unfolded (machine : Machine) : Run.reported machine fault =
      if fault.ofProgram then fault
      else .runtime (Run.locate machine {
        cause := .unexpected fault.message
        ip := some machine.ip
        rule := some "internal" }) := by
    cases fault with
    | runtime runtime => exact absurd rfl (other runtime)
    | _ => rfl
  rw [unfolded, unfolded]
  split
  · exact .plain fault other
  · rw [worlds.ip]
    exact .located _ _ _ _ _

theorem Thrown.reported {left right : Fault} (thrown : shift.Thrown left right)
    (worlds : shift.Worlds placed alone) :
    shift.Moved (Run.reported placed.machine left) (Run.reported alone.machine right) := by
  have unplaced (runtime : RuntimeFault) (missing : runtime.ip = none) :
      shift.Moved (Run.reported placed.machine (.runtime runtime))
        (Run.reported alone.machine (.runtime runtime)) := by
    change shift.Moved (.runtime (Run.locate placed.machine runtime))
      (.runtime (Run.locate alone.machine runtime))
    unfold Run.locate
    rw [missing, Option.getD_none, Option.getD_none, worlds.ip]
    exact .located _ _ _ _ _
  cases thrown with
  | nowhere _ nowhere =>
      cases left with
      | runtime runtime => exact unplaced runtime (nowhere runtime rfl)
      | _ => exact moved_of_other worlds (by simp)
  | brought _ raised =>
      cases left with
      | runtime runtime =>
          cases own : runtime.ip with
          | none => exact unplaced runtime own
          | some ip =>
              change shift.Moved (.runtime (Run.locate placed.machine runtime))
                (.runtime (Run.locate alone.machine runtime))
              unfold Run.locate
              rw [own, Option.getD_some, Option.getD_some, ← own]
              exact .brought runtime raised _ _
      | _ => exact moved_of_other worlds (by simp)
  | located cause ip rule step => exact .located cause ip rule _ _

theorem endings_of_running (running : shift.Running placed alone) (outlet : Outlet)
    {left right : Option Fault} (failures : Option.Rel shift.Thrown left right) :
    shift.Endings (Run.ending outlet left placed) (Run.ending outlet right alone) := by
  have verdict : Option.Rel shift.Moved (left.map (Run.reported placed.machine))
      (right.map (Run.reported alone.machine)) := by
    cases failures with
    | none => exact .none
    | some thrown => exact .some (thrown.reported running.toWorlds)
  have flushes := Run.matched_flush running
  unfold Run.ending
  generalize Run.flush placed = leftResult at flushes
  generalize Run.flush alone = rightResult at flushes
  cases flushes with
  | ok _ still =>
      exact ⟨{ still.toWorlds with }, congrArg (Option.getD · outlet) still.attached, verdict, verdict⟩
  | error brought still =>
      exact ⟨still.toWorlds, congrArg (Option.getD · outlet) still.attached, verdict, .some brought.moved⟩

theorem Running.run {outlet : Outlet}
    (running : shift.Running (placed.attach outlet) (alone.attach outlet)) (fuel : Nat) :
    Option.Rel shift.Endings (Run.run fuel outlet placed) (Run.run fuel outlet alone) := by
  have placedBuiltin : placed.host.services.Builtin := running.placedBuiltin
  have aloneBuiltin : alone.host.services.Builtin := running.aloneBuiltin
  have stopped : placed.machine.halted = alone.machine.halted := running.halted_eq
  have stepped := Run.matched_steps fuel running
  rw [Run.run_eq fuel outlet placedBuiltin, Run.run_eq fuel outlet aloneBuiltin, stopped]
  cases alone.machine.halted with
  | true => exact .some ⟨{ running.toWorlds with }, rfl, .none, .none⟩
  | false =>
      generalize Run.steps fuel (placed.attach outlet) = left at stepped
      generalize Run.steps fuel (alone.attach outlet) = right at stepped
      cases stepped with
      | error thrown still => exact .some (endings_of_running still outlet (.some thrown))
      | @ok finished _ _ _ same still =>
          cases same
          cases finished with
          | false => exact .none
          | true => exact .some (endings_of_running still outlet .none)

def ofStart (placed alone : World) (outlet : Outlet) : Displacement where
  front := placed.machine.program.toList
  placed := placed
  alone := alone
  raised fault := alone.source.Raises fault ∨ outlet.Raises fault

theorem running_of_start {fragment : List Instruction} (outlet : Outlet) (well : WellFormed fragment)
    (halted : placed.machine.ip = placed.machine.program.size)
    (holds : alone.machine.program.toList = fragment) (atStart : alone.machine.ip = 0)
    (tape : placed.machine.tape.Alike alone.machine.tape)
    (pointer : placed.machine.pointer = alone.machine.pointer)
    (inside : 0 ≤ alone.machine.pointer ∧ alone.machine.pointer < alone.machine.tape.size)
    (input : placed.source = alone.source) (files : placed.host.files = alone.host.files)
    (placedBuiltin : placed.host.services.Builtin) (aloneBuiltin : alone.host.services.Builtin) :
    (ofStart placed alone outlet).Running
      (World.attach { placed with machine := placed.machine.append fragment } outlet)
      (alone.attach outlet) where
  program := by
    change (placed.machine.append fragment).program.toList =
      placed.machine.program.toList ++
        relocate placed.machine.program.toList.length alone.machine.program.toList
    rw [holds, Machine.append_program]
  ip := by
    change placed.machine.ip = alone.machine.ip + (placed.machine.program.toList.length : Int)
    rw [halted, atStart, Int.zero_add, Array.length_toList]
  pointer := pointer
  tape := tape
  source := input
  files := files
  history := .refl _ _
  skipped := .refl _ _
  trace := .refl _ _
  diagnostics := .refl _ _
  wellFormed := by
    change WellFormed alone.machine.program.toList
    rw [holds]
    exact well
  index := ⟨0, atStart⟩
  inside := by
    refine ⟨alone.machine.pointer.toNat, (Int.toNat_of_nonneg inside.1).symm, ?_⟩
    change _ < alone.machine.tape.size
    omega
  attached := rfl
  placedBuiltin := placedBuiltin
  aloneBuiltin := aloneBuiltin
  outletFaults := by
    intro other attached fault raises
    cases attached
    exact .inr raises
  sourceFaults fault raises := .inl raises

end Displacement

/-- A fragment that is appended to the program of a machine that has halted just behind it runs as the
fragment alone does, step for step and to the same end. -/
theorem appended_fragment_runs_as_alone {source : Bytes} {file : String} {mode : Mode}
    {fragment : List Instruction} {placed alone : World} (outlet : Outlet)
    (accepted : parse source file mode = .ok fragment)
    (halted : placed.machine.ip = placed.machine.program.size)
    (holds : alone.machine.program.toList = fragment) (atStart : alone.machine.ip = 0)
    (tape : placed.machine.tape.Alike alone.machine.tape)
    (pointer : placed.machine.pointer = alone.machine.pointer)
    (inside : 0 ≤ alone.machine.pointer ∧ alone.machine.pointer < alone.machine.tape.size)
    (input : placed.source = alone.source) (files : placed.host.files = alone.host.files)
    (placedBuiltin : placed.host.services.Builtin) (aloneBuiltin : alone.host.services.Builtin)
    (fuel : Nat) :
    let shift := Displacement.ofStart placed alone outlet
    let joined := { placed with machine := placed.machine.append fragment }
    Run.Matched (· = ·) shift.Thrown shift.Worlds (Run.steps fuel (joined.attach outlet))
        (Run.steps fuel (alone.attach outlet)) ∧
      Option.Rel shift.Endings (Run.run fuel outlet joined) (Run.run fuel outlet alone) := by
  intro shift joined
  have running : shift.Running (joined.attach outlet) (alone.attach outlet) :=
    Displacement.running_of_start outlet (.of_parse accepted) halted holds atStart tape pointer inside
      input files placedBuiltin aloneBuiltin
  constructor
  · apply (Run.matched_steps fuel running).mono
    · intro left right thrown
      exact thrown
    · intro left right still
      exact still.toWorlds
  · exact running.run fuel

def loopWithInclude : Setup where
  file := "<repl>"
  program := [.loopStart (some 4), .command "include a", .counted .decrement 1, .loopEnd 0]
  files := .uniform (.bytes [91, 45, 93])

/-- A loop that includes a file, behind a program that could not run itself. -/
theorem include_behind_unknown_instruction :
    ∃ (placed alone : World) (fragment : List Instruction),
      placed.machine.program = #[.foreign "x"] ∧ placed.machine.ip = 1 ∧
      parse (Text.encode "[#include a;-]") "<repl>" .command = .ok fragment ∧
      alone.machine.program = fragment.toArray ∧
      (Run.run 20 (.direct {}) { placed with machine := placed.machine.append fragment }).map
        (·.world.machine.ip) = some 8 ∧
      (Run.run 20 (.direct {}) alone).map (·.world.machine.ip) = some 7 ∧
      Option.Rel (Displacement.ofStart placed alone (.direct {})).Endings
        (Run.run 20 (.direct {}) { placed with machine := placed.machine.append fragment })
        (Run.run 20 (.direct {}) alone) := by
  let start : Machine := { loopWithInclude.machine with tape := ⟨#[1, 0], 2, by decide⟩ }
  let alone : World := { loopWithInclude.world with machine := start }
  let placed : World := { alone with machine := { start with program := #[.foreign "x"], ip := 1 } }
  have accepted : parse (Text.encode "[#include a;-]") "<repl>" .command = .ok loopWithInclude.program := by
    apply parse_eq_ok_of_some
    decide +kernel
  have builtin := loopWithInclude.builtin rfl
  have halted : placed.machine.ip = placed.machine.program.size := rfl
  have holds : alone.machine.program.toList = loopWithInclude.program := rfl
  have runs := appended_fragment_runs_as_alone (.direct {}) accepted halted holds rfl (.inl rfl) rfl
    (by decide) rfl rfl builtin builtin 20
  exact ⟨placed, alone, _, rfl, rfl, accepted, rfl, by decide +kernel, by decide +kernel,
    runs.2⟩

end TapeLang
