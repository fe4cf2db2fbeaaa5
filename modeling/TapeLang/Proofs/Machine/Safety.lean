import TapeLang.Proofs.Machine.Ending
import TapeLang.Proofs.Stream.Calls

/-!
Machine safety. A world is safe when its program is well-formed, its pointer stands in the cells, its
instruction index in the program or just behind it, and its streams behave. Every step keeps a world
safe, also when it fails, and fails only in the ways that are permitted: for want of input, at a command
that is not known or has the wrong number of arguments, or at a syntax fault of an included file.
-/

namespace TapeLang

def NulFree (program : List Instruction) : Prop :=
  ∀ text, .command text ∈ program → commandName text = "include" →
    ∀ argument ∈ commandArguments text, argument.toList.contains '\x00' = false

inductive Permitted (host : Host) : Fault → Prop where
  | inputEnded (ip step : Option Int) :
      Permitted host (.runtime { cause := .inputEnded, ip, rule := some "input", step })
  | inputFailed (reason : String) (ip step : Option Int) :
      Permitted host (.runtime { cause := .inputFailed reason, ip, rule := some "input", step })
  | unsupported (name : String) (arguments : List String) (ip step : Option Int)
      (unknown : name = "" ∨ host.services.commands.lookup name = none) :
      Permitted host (.runtime {
        cause := .unsupported name arguments, ip, rule := some "command", step })
  | wrongArity {name : String} {spec : CommandSpec} {given : Nat} (ip step : Option Int)
      (known : host.services.commands.lookup name = some spec)
      (refused : spec.accepts given = false) :
      Permitted host (.runtime {
        cause := .wrongArity name spec.arity given, ip, rule := some name, step })
  | badSyntax {path : String} {source : Bytes} {fault : SyntaxFault}
      (opened : host.files.read path = .ok source)
      (refused : parse source path .normal = .error fault) : Permitted host (.badSyntax fault)

namespace Permitted

theorem reported {host : Host} {fault : Fault} (permitted : Permitted host fault)
    (machine : Machine) : Permitted host (Run.reported machine fault) := by
  cases permitted with
  | inputEnded => exact .inputEnded _ _
  | inputFailed => exact .inputFailed _ _ _
  | unsupported name arguments _ _ unknown => exact .unsupported name arguments _ _ unknown
  | wrongArity _ _ known refused => exact .wrongArity _ _ known refused
  | badSyntax opened refused => exact .badSyntax opened refused

theorem of_later {before after : World} {fault : Fault} (permitted : Permitted after.host fault)
    (later : before.Later after) : Permitted before.host fault := by
  cases permitted with
  | inputEnded => exact .inputEnded _ _
  | inputFailed => exact .inputFailed _ _ _
  | unsupported name arguments _ _ unknown =>
      exact .unsupported name arguments _ _ (later.services ▸ unknown)
  | wrongArity _ _ known refused => exact .wrongArity _ _ (later.services ▸ known) refused
  | badSyntax opened refused => exact .badSyntax (later.files ▸ opened) refused

theorem rule_ne_internal {host : Host} {fault : RuntimeFault} (builtin : host.services.Builtin)
    (permitted : Permitted host (.runtime fault)) : fault.rule ≠ some "internal" := by
  cases permitted with
  | inputEnded => simp
  | inputFailed => simp
  | unsupported => simp
  | wrongArity _ _ known refused =>
      rcases Run.lookup_builtin builtin.specs known with ⟨rfl, -⟩ | ⟨rfl, -⟩ <;> simp

end Permitted

namespace World

structure Safe (world : World) : Prop where
  builtin : world.host.services.Builtin
  wellFormed : WellFormed world.machine.program.toList
  nulFree : NulFree world.machine.program.toList
  pointer : ∃ place : Nat, world.machine.pointer = place ∧ place < world.machine.tape.size
  ip : ∃ index : Nat, world.machine.ip = index ∧ index ≤ world.machine.program.toList.length
  source : world.source.Regular
  outlet : ∀ outlet, world.machine.attached = some outlet → outlet.Steady

namespace Safe

variable {world : World}

theorem of_later {after : World} (safe : world.Safe) (later : world.Later after)
    (pointer : ∃ place : Nat, after.machine.pointer = place ∧ place < after.machine.tape.size)
    (ip : after.machine.ip = world.machine.ip) (source : after.source.Regular)
    (outlet : ∀ outlet, after.machine.attached = some outlet → outlet.Steady) : after.Safe where
  builtin := later.builtin safe.builtin
  wellFormed := later.program.well_formed safe.wellFormed
  nulFree text found := safe.nulFree text ((later.program.command_mem text).mp found)
  pointer := pointer
  ip := by
    rcases safe.ip with ⟨index, here, bound⟩
    exact ⟨index, ip.trans here, Nat.le_trans bound later.program.keeps_front.length_le⟩
  source := source
  outlet := outlet

theorem noted {after : World} (safe : world.Safe) (noted : world.Noted after) : after.Safe := by
  have later := noted.later
  rcases noted with ⟨_, _, _, rfl⟩
  exact safe.of_later later safe.pointer rfl safe.source safe.outlet

theorem included {after : World} (safe : world.Safe) (included : world.Included after) :
    after.Safe := by
  have later := included.later
  rcases included with ⟨middle, loaded, noted, -, rfl⟩
  have middleSafe := safe.noted noted
  rcases noted with ⟨_, _, _, rfl⟩
  exact safe.of_later later middleSafe.pointer rfl middleSafe.source middleSafe.outlet

theorem logStep (safe : world.Safe) (instruction : Instruction) :
    Safe { world with machine := world.machine.logStep instruction } :=
  { safe with }

theorem withTape (safe : world.Safe) {tape : Tape} (size : tape.size = world.machine.tape.size) :
    (world.withTape tape).Safe :=
  { safe with
    pointer := by
      rcases safe.pointer with ⟨place, stands, inside⟩
      exact ⟨place, stands, size ▸ inside⟩ }

theorem called (safe : world.Safe) {called : Called Outlet} (steady : called.stream.Steady) :
    (world.called called).Safe :=
  { safe with
    outlet := by
      intro outlet attached
      cases attached
      exact steady }

theorem kept (safe : world.Safe) (bytes : Bytes) : (world.kept bytes).Safe :=
  { safe with }

theorem afterRead (safe : world.Safe) : world.afterRead.Safe :=
  { safe with source := safe.source.take.2 }

theorem attach (safe : world.Safe) {outlet : Outlet} (steady : outlet.Steady) :
    (world.attach outlet).Safe :=
  { safe with
    outlet := by
      intro other attached
      cases attached
      exact steady }

end Safe

end World

namespace Run

variable {world : World}

theorem yields_settle_safe (safe : world.Safe) {called : Called Outlet}
    (steady : called.fault = none ∧ called.stream.Steady) :
    Yields (settle called) world (fun _ after => after.Safe) fun _ _ => False := by
  rw [yields_settle, steady.1]
  exact ⟨fun _ => safe.called steady.2, by simp⟩

theorem yields_emit_safe (safe : world.Safe) (bytes : Bytes) :
    Yields (emit bytes) world (fun _ after => after.Safe) fun _ _ => False := by
  rw [yields_emit]
  constructor
  · intro _
    exact safe.kept bytes
  · intro outlet attached
    exact yields_settle_safe (safe.kept bytes) ((safe.outlet outlet attached).write bytes)

theorem yields_flush_safe (safe : world.Safe) :
    Yields flush world (fun _ after => after.Safe) fun _ _ => False := by
  rw [yields_flush]
  constructor
  · intro _
    exact safe
  · intro outlet attached
    exact yields_settle_safe safe (safe.outlet outlet attached).flush

theorem yields_read_byte_safe (safe : world.Safe) :
    Yields readByte world (fun _ after => after.Safe)
      fun fault after => after.Safe ∧ Permitted world.host fault := by
  rw [yields_read_byte]
  apply (yields_flush_safe safe).mono ?_ fun _ _ => False.elim
  intro _ flushed flushedSafe
  constructor
  · intro _ _
    exact flushedSafe.afterRead
  · intro fault raised
    refine ⟨flushedSafe.afterRead, ?_⟩
    have regular := flushedSafe.source.take.1
    generalize flushed.source.take.1 = delivery at raised regular
    cases regular with
    | byte byte => cases raised
    | nothing => cases raised; exact .inputEnded none none
    | failure reason => cases raised; exact .inputFailed _ none none

theorem yields_update_cell_safe (safe : world.Safe) (change : UInt8 → UInt8) :
    Yields (updateCell change) world (fun _ after => after.Safe) fun _ _ => False := by
  rcases safe.pointer with ⟨place, stands, inside⟩
  unfold Yields
  rw [update_cell_inside stands inside]
  exact safe.withTape (Tape.size_put _ _ _)

theorem yields_write_cell_safe (safe : world.Safe) (byte : UInt8) :
    Yields (writeCell byte) world (fun _ after => after.Safe) fun _ _ => False := by
  rcases safe.pointer with ⟨place, stands, inside⟩
  unfold Yields
  rw [write_cell_inside stands inside]
  exact safe.withTape (Tape.size_put _ _ _)

theorem yields_read_cell_safe (safe : world.Safe) :
    Yields readCell world (fun _ after => after = world) fun _ _ => False := by
  rcases safe.pointer with ⟨place, stands, inside⟩
  unfold Yields
  rw [read_cell_inside stands inside]

theorem yields_counted_safe (safe : world.Safe) (count : Nat) (kind : Counted) :
    Yields (execCounted count kind) world (fun _ after => after.Safe) fun _ _ => False := by
  rcases safe.pointer with ⟨place, stands, inside⟩
  cases kind with
  | increment => exact yields_update_cell_safe safe _
  | decrement => exact yields_update_cell_safe safe _
  | shiftLeft =>
      rw [execCounted, shiftLeft, yields_modify_machine]
      refine { safe with pointer := ⟨place - count, ?_, by dsimp only; omega⟩ }
      dsimp only
      rw [stands]
      split <;> omega
  | shiftRight =>
      rw [execCounted, shiftRight, yields_modify_machine]
      refine { safe with pointer := ⟨place + count, by simp [stands], ?_⟩ }
      dsimp only
      rw [Tape.size_grow, stands]
      omega

theorem yields_clear_tape_safe (safe : world.Safe) :
    Yields clearTape world (fun _ after => after.Safe) fun _ _ => False := by
  rw [clearTape, yields_bind, yields_modify_machine]
  exact yields_emit_safe (safe.withTape (Tape.size_clear _)) _

theorem yields_include_safe (safe : world.Safe) {text : String}
    (found : .command text ∈ world.machine.program.toList) (named : commandName text = "include") :
    Yields (includeFiles (commandArguments text)) world (fun _ after => after.Safe)
      fun fault after => after.Safe ∧ Permitted world.host fault := by
  apply (yields_include_files _ world).mono (fun _ _ included => safe.included included) ?_
  intro fault after stopped
  rcases stopped with ⟨noted, cause⟩
  constructor
  · exact safe.noted noted
  · cases cause with
    | badSyntax _ opened refused => exact .badSyntax opened refused
    | embeddedNul argument nul =>
        rw [safe.nulFree text found named _ argument] at nul
        cases nul

theorem yields_command_safe (safe : world.Safe) {text : String} (ip : Int)
    (found : .command text ∈ world.machine.program.toList) :
    Yields (command text ip) world (fun _ after => after.Safe)
      fun fault after => after.Safe ∧ Permitted world.host fault := by
  unfold Yields
  rw [command_eq_builtin_command text ip safe.builtin]
  change Yields (builtinCommand text ip) world _ _
  rw [builtinCommand, yields_bind, yields_get, yields_bind, yields_lift]
  rcases resolve_cases world.host.services.commands text with
    ⟨unknown, refused⟩ | ⟨spec, bound, ⟨unaccepted, refused⟩ | ⟨-, resolved⟩⟩
  · constructor
    · simp [refused]
    · intro fault raised
      cases (refused ip).symm.trans raised
      exact ⟨safe, .unsupported _ _ _ _ unknown⟩
  · constructor
    · simp [refused]
    · intro fault raised
      cases (refused ip).symm.trans raised
      exact ⟨safe, .wrongArity _ _ bound unaccepted⟩
  · constructor
    · intro other same
      cases (resolved ip).symm.trans same
      rcases lookup_builtin safe.builtin.specs bound with ⟨named, rfl⟩ | ⟨-, rfl⟩
      · exact yields_include_safe safe found named
      · exact (yields_clear_tape_safe safe).mono (fun _ _ cleared => cleared) fun _ _ => False.elim
    · simp [resolved]

end Run

/-- Where control can go from an instruction: to the next one, or where a bracket points. -/
inductive Instruction.GoesTo (ip : Int) : Instruction → Int → Prop where
  | next (instruction : Instruction) : GoesTo ip instruction (ip + 1)
  | past (target : Int) : GoesTo ip (.loopStart (some target)) target
  | back (start : Int) : GoesTo ip (.loopEnd start) start

theorem WellFormed.goes_to {program : List Instruction} (well : WellFormed program) {index : Nat}
    {instruction : Instruction} {next : Int} (found : program[index]? = some instruction)
    (goes : instruction.GoesTo index next) :
    ∃ target : Nat, next = target ∧ target ≤ program.length := by
  have inside : index < program.length := (List.getElem?_eq_some_iff.mp found).1
  cases goes with
  | next => exact ⟨index + 1, by simp, inside⟩
  | past target =>
      obtain ⟨past, same, -, bound, -⟩ := well.opening index _ found
      cases same
      exact ⟨past, rfl, bound⟩
  | back start =>
      obtain ⟨first, rfl, before, -⟩ := well.closing index _ found
      exact ⟨first, rfl, by omega⟩

namespace Run

variable {world : World}

/-- An instruction of a safe machine leaves a safe machine and says where control goes, or it fails in
a permitted way. -/
theorem yields_exec_safe (safe : world.Safe) {instruction : Instruction} {index : Nat} (ip : Int)
    (found : world.machine.program.toList[index]? = some instruction) :
    Yields (exec instruction ip) world (fun next after => after.Safe ∧ instruction.GoesTo ip next)
      fun fault after => after.Safe ∧ Permitted world.host fault := by
  cases instruction with
  | counted kind count =>
      rw [exec]
      apply (yields_counted_safe safe count kind).bind_sure
      intro _ after stillSafe
      exact ⟨stillSafe, .next _⟩
  | output =>
      rw [exec]
      apply (yields_read_cell_safe safe).bind_sure
      intro cell middle same
      subst same
      apply (yields_emit_safe safe [cell]).bind_sure
      intro _ after stillSafe
      exact ⟨stillSafe, .next _⟩
  | input =>
      rw [exec]
      apply (yields_read_byte_safe safe).bind
      intro byte read readSafe
      apply (yields_write_cell_safe readSafe byte).bind_sure
      intro _ after stillSafe
      exact ⟨stillSafe, .next _⟩
  | loopStart target =>
      obtain ⟨past, rfl, -⟩ := safe.wellFormed.opening index target found
      rw [exec]
      apply (yields_read_cell_safe safe).bind_sure
      intro cell middle same
      subst same
      constructor
      · exact safe
      · split
        · exact .past _
        · exact .next _
  | loopEnd start =>
      rw [exec]
      apply (yields_read_cell_safe safe).bind_sure
      intro cell middle same
      subst same
      constructor
      · exact safe
      · split
        · exact .next _
        · exact .back _
  | command text =>
      rw [exec]
      apply (yields_command_safe safe ip (List.mem_of_getElem? found)).bind
      intro _ after stillSafe
      exact ⟨stillSafe, .next _⟩
  | foreign text => exact absurd found (safe.wellFormed.known index text)

theorem yields_step_safe (safe : world.Safe) (running : world.machine.halted = false) :
    Yields step world (fun _ after => after.Safe)
      fun fault after => after.Safe ∧ Permitted world.host fault := by
  rcases safe.ip with ⟨index, here, -⟩
  have inside : index < world.machine.program.toList.length := by
    have bound := Machine.halted_eq_false.mp running
    omega
  have found := List.getElem?_eq_getElem inside
  generalize world.machine.program.toList[index] = instruction at found
  have fetched := world.machine.fetch_inside found
  rw [← here] at fetched
  have logged := safe.logStep instruction
  have advances := advances_exec instruction world.machine.ip logged.builtin
  rw [yields_step fetched]
  apply ((yields_exec_safe logged world.machine.ip found).and advances).mono
  · intro next after executed
    rcases executed with ⟨⟨stillSafe, goes⟩, later⟩
    rw [here] at goes
    obtain ⟨target, reached, bound⟩ := safe.wellFormed.goes_to found goes
    have longer := later.program.keeps_front.length_le
    exact { stillSafe with ip := ⟨target, reached, Nat.le_trans bound longer⟩ }
  · intro fault after stopped
    exact stopped

theorem yields_steps_safe (fuel : Nat) (safe : world.Safe) :
    Yields (steps fuel) world (fun halted after => after.Safe ∧ after.machine.halted = halted)
      fun fault after => after.Safe ∧ Permitted world.host fault := by
  induction fuel generalizing world with
  | zero => exact ⟨safe, rfl⟩
  | succ fuel ih =>
      cases halted : world.machine.halted with
      | true =>
          rw [yields_steps_of_halted fuel halted]
          exact ⟨safe, halted⟩
      | false =>
          have advances : Advances step world := advances_step safe.builtin
          rw [yields_steps_of_running fuel halted]
          apply ((yields_step_safe safe halted).and advances).mono
          · intro _ middle stepped
            rcases stepped with ⟨stillSafe, later⟩
            apply (ih stillSafe).mono
            · intro _ final done
              exact done
            · intro fault final stopped
              exact ⟨stopped.1, stopped.2.of_later later⟩
          · intro fault after stopped
            exact stopped

theorem yields_flush_halted :
    Yields flush world (fun _ after => after.machine.halted = world.machine.halted)
      fun _ _ => True := by
  rw [yields_flush]
  constructor
  · intro _
    exact rfl
  · intro outlet _
    rw [yields_settle]
    exact ⟨fun _ => rfl, fun _ _ => trivial⟩

/-- The last flush of a safe machine succeeds, so that what leaves the run is the verdict on the
program and the outlet is detached. -/
theorem ending_safe (outlet : Outlet) (failure : Option Fault) (safe : world.Safe) :
    (ending outlet failure world).world.Safe ∧
      (ending outlet failure world).world.machine.attached = none ∧
      (ending outlet failure world).world.machine.halted = world.machine.halted ∧
      (ending outlet failure world).fault = failure.map (reported world.machine) := by
  have flushed := (yields_flush_safe safe).and yields_flush_halted
  unfold ending
  cases result : flush world with
  | error fault after => exact (flushed.of_error result).elim
  | ok value after =>
      obtain ⟨stillSafe, halted⟩ := flushed.of_ok result
      exact ⟨{ stillSafe with outlet := by simp }, rfl, halted, rfl⟩

theorem point_safe {outlet : Outlet} (safe : world.Safe) (steady : outlet.Steady) (fuel : Nat) :
    (point outlet world fuel).Safe := by
  have stepped := yields_steps_safe fuel (safe.attach steady)
  unfold point
  cases result : steps fuel (world.attach outlet) with
  | ok halted after => exact (stepped.of_ok result).1
  | error fault after => exact (stepped.of_error result).1

theorem run_safe {fuel : Nat} {outlet : Outlet} {ended : Ended} (safe : world.Safe)
    (idle : world.machine.attached = none) (steady : outlet.Steady)
    (ran : run fuel outlet world = some ended) :
    ended.world.Safe ∧ ended.world.machine.attached = none ∧
      (ended.fault = none → ended.world.machine.halted = true) ∧
      ∀ fault, ended.fault = some fault → Permitted world.host fault := by
  rw [run_eq fuel outlet safe.builtin] at ran
  split at ran
  case isTrue halted =>
    cases ran
    exact ⟨safe, idle, fun _ => halted, by simp⟩
  case isFalse =>
    have stepped := yields_steps_safe fuel (safe.attach steady)
    cases result : steps fuel (world.attach outlet) with
    | ok halted after =>
        rw [result] at ran
        cases halted with
        | false => cases ran
        | true =>
            cases ran
            obtain ⟨afterSafe, stopped⟩ := stepped.of_ok result
            obtain ⟨endSafe, detached, halted, fault⟩ := ending_safe outlet none afterSafe
            refine ⟨endSafe, detached, fun _ => halted.trans stopped, ?_⟩
            rw [fault]
            simp
    | error fault after =>
        rw [result] at ran
        cases ran
        obtain ⟨afterSafe, permitted⟩ := stepped.of_error result
        obtain ⟨endSafe, detached, -, left⟩ := ending_safe outlet (some fault) afterSafe
        refine ⟨endSafe, detached, by simp [left], ?_⟩
        intro reported raised
        rw [left] at raised
        cases raised
        exact permitted.reported after.machine

end Run

end TapeLang
