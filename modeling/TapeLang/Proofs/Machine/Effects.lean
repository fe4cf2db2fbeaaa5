import TapeLang.Proofs.Machine.Builtin
import TapeLang.Proofs.Tape.Window

/-!
What a step can do to the world. The first part says what writing, flushing and reading come to, for any
stream, and what the cells come to while the pointer stands in them. The second part is about machines
with the built-in commands only: whatever a step does, and whether it fails or not, the program has grown
by parsed fragments or stayed as it was, the tape has not shrunk, and the services and files are the
same.
-/

namespace TapeLang

def World.called (world : World) (called : Called Outlet) : World :=
  World.record { world with machine := { world.machine with attached := some called.stream } }
    called.events

def World.kept (world : World) (bytes : Bytes) : World :=
  { world with machine := { world.machine with history := world.machine.history ++ bytes.toArray } }

/-- The world after one read from the source: the prompt was shown, the delivery taken, and the read
recorded. -/
def World.afterRead (world : World) : World :=
  World.record { world.record (world.source.prompt?.toList.map .shown) with source := world.source.take.2 }
    [.read (Run.byteOf world.source.take.1).toOption]

def World.withTape (world : World) (tape : Tape) : World :=
  { world with machine := { world.machine with tape } }

theorem World.output_record_flushes (world : World) {events : List StreamEvent}
    (flushes : ∀ event ∈ events, event = .flushed) :
    (world.record events).host.output = world.host.output := by
  unfold World.record Host.output
  dsimp only
  rw [Array.toList_append, List.flatMap_append, List.append_right_eq_self, List.flatMap_eq_nil_iff]
  intro event found
  rw [flushes event found]

namespace Run

theorem settle_eq (called : Called Outlet) (world : World) :
    settle called world =
      match called.fault with
      | none => .ok () (world.called called)
      | some fault => .error fault (world.called called) := by
  change (match called.fault with
    | none => pure ()
    | some fault => throw fault : Run Unit) (world.called called) = _
  cases called.fault <;> rfl

theorem emit_eq (bytes : Bytes) (world : World) :
    emit bytes world =
      match world.machine.attached with
      | none => .ok () (world.kept bytes)
      | some outlet => settle (outlet.write bytes) (world.kept bytes) := by
  change (match world.machine.attached with
    | none => pure ()
    | some outlet => settle (outlet.write bytes) : Run Unit) (world.kept bytes) = _
  cases world.machine.attached <;> rfl

theorem flush_eq (world : World) :
    flush world =
      match world.machine.attached with
      | none => .ok () world
      | some outlet => settle outlet.flush world := by
  change (match world.machine.attached with
    | none => pure ()
    | some outlet => settle outlet.flush : Run Unit) world = _
  cases world.machine.attached <;> rfl

theorem flush_of_attached {world : World} {outlet : Outlet}
    (attached : world.machine.attached = some outlet) (succeeds : outlet.flush.fault = none) :
    flush world = .ok () (world.called outlet.flush) := by
  rw [flush_eq, attached]
  dsimp only
  rw [settle_eq, succeeds]

theorem read_byte_eq (world : World) :
    readByte world =
      match flush world with
      | .ok _ flushed =>
        match byteOf flushed.source.take.1 with
        | .ok byte => .ok byte flushed.afterRead
        | .error fault => .error fault flushed.afterRead
      | .error fault after => .error fault after := by
  rw [readByte, bind_eq]
  cases flush world with
  | error fault after => rfl
  | ok value flushed =>
      change lift id (byteOf flushed.source.take.1) flushed.afterRead =
        match byteOf flushed.source.take.1 with
        | .ok byte => .ok byte flushed.afterRead
        | .error fault => .error fault flushed.afterRead
      cases byteOf flushed.source.take.1 <;> rfl

section Cells

variable {world : World} {place : Nat}

theorem read_cell_inside (stands : world.machine.pointer = place)
    (inside : place < world.machine.tape.size) :
    readCell world = .ok (world.machine.tape.cells.getD place 0) world := by
  change lift .index (world.machine.tape.read world.machine.pointer) world = _
  rw [stands, Tape.read_inside _ inside]
  rfl

theorem write_cell_inside (stands : world.machine.pointer = place)
    (inside : place < world.machine.tape.size) (byte : UInt8) :
    writeCell byte world = .ok () (world.withTape (world.machine.tape.put place byte)) := by
  rw [writeCell, bind_eq]
  change (lift .index (world.machine.tape.write world.machine.pointer byte) >>= _ : Run Unit) world = _
  rw [stands, Tape.write_inside _ inside]
  rfl

theorem update_cell_inside (stands : world.machine.pointer = place)
    (inside : place < world.machine.tape.size) (change : UInt8 → UInt8) :
    updateCell change world =
      .ok () (world.withTape
        (world.machine.tape.put place (change (world.machine.tape.cells.getD place 0)))) := by
  rw [updateCell, bind_eq]
  change (lift .index (world.machine.tape.read world.machine.pointer) >>= fun cell =>
    lift .index (world.machine.tape.write world.machine.pointer (change cell)) >>= _ : Run Unit)
      world = _
  rw [stands, Tape.read_inside _ inside, bind_eq]
  change (lift .index (world.machine.tape.write place _) >>= _ : Run Unit) world = _
  rw [Tape.write_inside _ inside]
  rfl

end Cells

section Streams

variable {done : Unit → World → Prop} {failed : Fault → World → Prop} {world : World}

theorem yields_settle (called : Called Outlet) :
    Yields (settle called) world done failed ↔
      (called.fault = none → done () (world.called called)) ∧
        ∀ fault, called.fault = some fault → failed fault (world.called called) := by
  unfold Yields
  rw [settle_eq]
  cases called.fault with
  | none => simp
  | some fault => simp

theorem yields_emit (bytes : Bytes) :
    Yields (emit bytes) world done failed ↔
      (world.machine.attached = none → done () (world.kept bytes)) ∧
        ∀ outlet, world.machine.attached = some outlet →
          Yields (settle (outlet.write bytes)) (world.kept bytes) done failed := by
  unfold Yields
  rw [emit_eq]
  cases world.machine.attached with
  | none => simp
  | some outlet => simp

theorem yields_flush :
    Yields flush world done failed ↔
      (world.machine.attached = none → done () world) ∧
        ∀ outlet, world.machine.attached = some outlet →
          Yields (settle outlet.flush) world done failed := by
  unfold Yields
  rw [flush_eq]
  cases world.machine.attached with
  | none => simp
  | some outlet => simp

theorem yields_read_byte {done : UInt8 → World → Prop} :
    Yields readByte world done failed ↔
      Yields flush world
        (fun _ flushed =>
          (∀ byte, byteOf flushed.source.take.1 = .ok byte → done byte flushed.afterRead) ∧
            ∀ fault, byteOf flushed.source.take.1 = .error fault → failed fault flushed.afterRead)
        failed := by
  unfold Yields
  rw [read_byte_eq]
  cases flush world with
  | error fault after => rfl
  | ok value flushed =>
      dsimp only
      cases byteOf flushed.source.take.1 with
      | ok byte => simp
      | error fault => simp

end Streams

end Run

/-- The second world can come after the first in a run with the built-in commands. -/
structure World.Later (before after : World) : Prop where
  program : Grows before.machine.program.toList after.machine.program.toList
  size : before.machine.tape.size ≤ after.machine.tape.size
  services : after.host.services = before.host.services
  files : after.host.files = before.host.files

namespace World.Later

theorem refl (world : World) : world.Later world :=
  ⟨.refl, Nat.le_refl _, rfl, rfl⟩

theorem trans {first second third : World} (before : first.Later second)
    (after : second.Later third) : first.Later third where
  program := before.program.trans after.program
  size := Nat.le_trans before.size after.size
  services := after.services.trans before.services
  files := after.files.trans before.files

theorem builtin {before after : World} (later : before.Later after)
    (builtin : before.host.services.Builtin) : after.host.services.Builtin := by
  rw [later.services]
  exact builtin

end World.Later

theorem World.Noted.later {before after : World} (noted : before.Noted after) :
    before.Later after := by
  rcases noted with ⟨_, _, _, rfl⟩
  exact ⟨.refl, Nat.le_refl _, rfl, rfl⟩

namespace Run

def Advances (activity : Run α) (world : World) : Prop :=
  Yields activity world (fun _ after => world.Later after) fun _ after => world.Later after

section Advances

variable {world : World}

theorem Advances.of_ok {activity : Run α} {value : α} {after : World}
    (advances : Advances activity world) (result : activity world = .ok value after) :
    world.Later after := by
  unfold Advances at advances
  exact advances.of_ok result

theorem Advances.of_error {activity : Run α} {fault : Fault} {after : World}
    (advances : Advances activity world) (result : activity world = .error fault after) :
    world.Later after := by
  unfold Advances at advances
  exact advances.of_error result

theorem Advances.bind {first : Run α} {next : α → Run β} (begins : Advances first world)
    (goesOn : ∀ value middle, world.Later middle → Advances (next value) middle) :
    Advances (first >>= next) world := by
  unfold Advances
  apply Yields.bind begins
  intro value middle later
  exact (goesOn value middle later).mono (fun _ _ further => later.trans further)
    fun _ _ further => later.trans further

theorem advances_pure (value : α) : Advances (pure value) world := World.Later.refl world

theorem advances_throw (fault : Fault) : Advances (throw fault : Run α) world :=
  World.Later.refl world

theorem advances_machine : Advances machine world := World.Later.refl world

theorem advances_lift (kind : Cause → Fault) (value : Except Cause α) :
    Advances (lift kind value) world := by
  cases value <;> exact World.Later.refl world

theorem advances_modify_machine {change : Machine → Machine}
    (later : world.Later { world with machine := change world.machine }) :
    Advances (modifyMachine change) world := later

theorem advances_settle (called : Called Outlet) : Advances (settle called) world := by
  unfold Advances
  rw [yields_settle]
  exact ⟨fun _ => ⟨.refl, Nat.le_refl _, rfl, rfl⟩, fun _ _ => ⟨.refl, Nat.le_refl _, rfl, rfl⟩⟩

theorem advances_emit (bytes : Bytes) : Advances (emit bytes) world := by
  have kept : world.Later (world.kept bytes) := ⟨.refl, Nat.le_refl _, rfl, rfl⟩
  unfold Advances
  rw [yields_emit]
  constructor
  · intro _
    exact kept
  · intro outlet _
    exact (advances_settle (outlet.write bytes)).mono (fun _ _ later => kept.trans later)
      fun _ _ later => kept.trans later

theorem advances_flush : Advances flush world := by
  unfold Advances
  rw [yields_flush]
  exact ⟨fun _ => .refl world, fun outlet _ => advances_settle outlet.flush⟩

theorem advances_read_byte : Advances readByte world := by
  unfold Advances
  rw [yields_read_byte]
  apply Yields.mono advances_flush ?_ fun _ _ later => later
  intro _ flushed later
  have read : flushed.Later flushed.afterRead := ⟨.refl, Nat.le_refl _, rfl, rfl⟩
  exact ⟨fun _ _ => later.trans read, fun _ _ => later.trans read⟩

theorem size_of_write {tape written : Tape} {index : Int} {value : UInt8}
    (wrote : tape.write index value = .ok written) : written.size = tape.size := by
  unfold Tape.write at wrote
  cases found : tape.position index with
  | error fault =>
      rw [found] at wrote
      cases wrote
  | ok position =>
      rw [found] at wrote
      cases wrote
      rfl

theorem advances_put_tape {index : Int} {value : UInt8} {tape : Tape}
    (wrote : world.machine.tape.write index value = .ok tape) :
    Advances (modifyMachine fun machine => { machine with tape }) world :=
  advances_modify_machine ⟨.refl, Nat.le_of_eq (size_of_write wrote).symm, rfl, rfl⟩

theorem advances_update_cell (change : UInt8 → UInt8) : Advances (updateCell change) world := by
  unfold Advances updateCell
  simp only [yields_bind, yields_machine, yields_lift]
  constructor
  · intro cell _
    exact ⟨fun tape wrote => advances_put_tape wrote, fun _ _ => .refl world⟩
  · intro _ _
    exact .refl world

theorem advances_write_cell (byte : UInt8) : Advances (writeCell byte) world := by
  unfold Advances writeCell
  simp only [yields_bind, yields_machine, yields_lift]
  exact ⟨fun tape wrote => advances_put_tape wrote, fun _ _ => .refl world⟩

theorem advances_read_cell : Advances readCell world :=
  advances_machine.bind fun _ _ _ => advances_lift _ _

theorem advances_counted (count : Nat) (kind : Counted) : Advances (execCounted count kind) world := by
  cases kind with
  | increment => exact advances_update_cell _
  | decrement => exact advances_update_cell _
  | shiftLeft =>
      unfold execCounted shiftLeft
      exact advances_modify_machine ⟨.refl, Nat.le_refl _, rfl, rfl⟩
  | shiftRight =>
      unfold execCounted shiftRight
      apply advances_modify_machine ⟨.refl, ?_, rfl, rfl⟩
      rw [Tape.size_grow]
      exact Nat.le_max_left _ _

end Advances

end Run

def World.Included (before after : World) : Prop :=
  ∃ middle loaded, before.Noted middle ∧ Grows [] loaded ∧
    after = { middle with machine := middle.machine.append loaded }

theorem Machine.append_program (machine : Machine) (fragment : List Instruction) :
    (machine.append fragment).program.toList =
      machine.program.toList ++ relocate machine.program.toList.length fragment := by
  simp [Machine.append]

theorem World.Included.later {before after : World} (included : before.Included after) :
    before.Later after := by
  rcases included with ⟨middle, loaded, noted, grown, rfl⟩
  have placed : middle.Later { middle with machine := middle.machine.append loaded } := by
    refine ⟨?_, Nat.le_refl _, rfl, rfl⟩
    rw [Machine.append_program]
    exact grown.behind _
  exact noted.later.trans placed

namespace Run

theorem yields_include_files (paths : List String) (world : World) :
    Yields (includeFiles paths) world (fun _ after => world.Included after)
      (fun fault after => world.Noted after ∧ LoadFault world.host.files paths fault) := by
  rw [includeFiles]
  apply (yields_load_files [] paths world).bind
  intro loaded middle read
  rcases read with ⟨noted, grown⟩
  rw [yields_modify_machine]
  exact ⟨middle, loaded, noted, grown, rfl⟩

theorem advances_include_files (paths : List String) {world : World} :
    Advances (includeFiles paths) world :=
  (yields_include_files paths world).mono (fun _ _ included => included.later)
    fun _ _ found => found.1.later

theorem advances_clear_tape {world : World} : Advances clearTape world := by
  have cleared : Advances (modifyMachine (·.resetTape)) world :=
    advances_modify_machine ⟨.refl, Nat.le_refl _, rfl, rfl⟩
  exact cleared.bind fun _ _ _ => advances_emit _

def builtinCommand (text : String) (ip : Int) : Run Unit := do
  let spec ← lift .runtime (resolve (← get).host.services.commands text ip)
  match spec.handler with
  | .includeFiles => includeFiles (commandArguments text)
  | .clearTape => clearTape
  | .script _ => pure ()

/-- With nobody listening, the notifications around a handler that keeps the services do nothing. -/
theorem notify_around (handler : List String → Run Unit) {world : World} (name : String)
    (arguments : List String) (silent : world.host.services.listeners = [])
    (advances : Advances (handler arguments) world) :
    (do
      let before ← notify .beforeCommand (.beforeCommand name) arguments
      let after ← (do
        handler before
        return before)
      discard <| notify .afterCommand (.afterCommand name) after : Run Unit) world =
      handler arguments world := by
  rw [bind_eq, notify_silent .beforeCommand (.beforeCommand name) arguments silent]
  dsimp only
  rw [bind_eq, bind_eq]
  cases result : handler arguments world with
  | error fault after => rfl
  | ok value after =>
      have still : after.host.services.listeners = [] := by
        rw [(advances.of_ok result).services, silent]
      change (discard (notify .afterCommand (.afterCommand name) arguments) : Run Unit) after = _
      rw [discard_eq, notify_silent .afterCommand (.afterCommand name) arguments still]

theorem command_eq_builtin_command (text : String) (ip : Int) {world : World}
    (builtin : world.host.services.Builtin) : command text ip world = builtinCommand text ip world := by
  change EStateM.bind (lift .runtime (resolve world.host.services.commands text ip)) _ world =
    EStateM.bind (lift .runtime (resolve world.host.services.commands text ip)) _ world
  unfold EStateM.bind
  rcases resolve_cases world.host.services.commands text with
    ⟨-, refused⟩ | ⟨spec, found, ⟨-, refused⟩ | ⟨-, resolved⟩⟩
  · rw [refused]
    rfl
  · rw [refused]
    rfl
  · rw [resolved]
    rcases lookup_builtin builtin.specs found with ⟨-, rfl⟩ | ⟨-, rfl⟩
    · exact notify_around includeFiles _ _ builtin.silent (advances_include_files _)
    · exact notify_around (fun _ => clearTape) _ _ builtin.silent advances_clear_tape

section Advances

variable {world : World}

theorem advances_command (text : String) (ip : Int) (builtin : world.host.services.Builtin) :
    Advances (command text ip) world := by
  unfold Advances Yields
  rw [command_eq_builtin_command text ip builtin]
  have looked : Advances (get : Run World) world := World.Later.refl world
  apply looked.bind
  intro seen _ _
  apply (advances_lift _ _).bind
  intro spec _ _
  cases spec.handler with
  | includeFiles => exact advances_include_files _
  | clearTape => exact advances_clear_tape
  | script actions => exact advances_pure ()

theorem advances_exec (instruction : Instruction) (ip : Int)
    (builtin : world.host.services.Builtin) : Advances (exec instruction ip) world := by
  cases instruction with
  | counted kind count =>
      exact (advances_counted count kind).bind fun _ _ _ => advances_pure _
  | output =>
      exact advances_read_cell.bind fun _ _ _ =>
        (advances_emit _).bind fun _ _ _ => advances_pure _
  | input =>
      exact advances_read_byte.bind fun _ _ _ =>
        (advances_write_cell _).bind fun _ _ _ => advances_pure _
  | loopStart target =>
      cases target with
      | none => exact advances_throw _
      | some target => exact advances_read_cell.bind fun _ _ _ => advances_pure _
  | loopEnd start => exact advances_read_cell.bind fun _ _ _ => advances_pure _
  | command text =>
      exact (advances_command text ip builtin).bind fun _ _ _ => advances_pure _
  | foreign text => exact advances_throw _

theorem advances_step (builtin : world.host.services.Builtin) : Advances step world := by
  apply advances_machine.bind
  intro before _ here
  apply (advances_lift _ _).bind
  intro instruction _ found
  apply (advances_modify_machine ⟨.refl, Nat.le_refl _, rfl, rfl⟩).bind
  intro _ _ logged
  have still := logged.builtin (found.builtin (here.builtin builtin))
  apply (advances_exec instruction before.ip still).bind
  intro next _ _
  exact advances_modify_machine ⟨.refl, Nat.le_refl _, rfl, rfl⟩

theorem advances_steps (fuel : Nat) (builtin : world.host.services.Builtin) :
    Advances (steps fuel) world := by
  induction fuel generalizing world with
  | zero => exact advances_machine.bind fun _ _ _ => advances_pure _
  | succ fuel ih =>
      apply advances_machine.bind
      intro machine _ here
      cases machine.halted with
      | true => exact advances_pure true
      | false =>
          apply (advances_step (here.builtin builtin)).bind
          intro _ _ later
          exact ih (later.builtin (here.builtin builtin))

end Advances

end Run

end TapeLang
