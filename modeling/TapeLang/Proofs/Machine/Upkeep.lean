import TapeLang.Proofs.Machine.Ending
import TapeLang.Proofs.Machine.Scripting

/-!
What every run upholds, whatever commands are bound and whoever listens. An invariant that is kept by the
few primitives through which scripts, commands and instructions act on the world is kept by all of them,
and holds when the outlet is flushed for the last time.
-/

namespace TapeLang

@[simp] theorem StepLog.limit_record (log : StepLog Cell) (report : StepLog.Report Cell) :
    (log.record report).limit = log.limit := by
  unfold record push
  split <;> rfl

theorem Machine.same_outside_log_report (machine : Machine) (report : StepLog.Report UInt8) :
    machine.SameOutside (machine.logReport report) :=
  ⟨rfl, rfl, machine.log.limit_record report⟩

namespace Run

def Keeps (kept : World → Prop) (activity : Run α) : Prop :=
  ∀ world, kept world → Yields activity world (fun _ after => kept after) fun _ after => kept after

section Keeps

variable {kept : World → Prop}

theorem Keeps.bind {first : Run α} {next : α → Run β} (begins : Keeps kept first)
    (goesOn : ∀ value, Keeps kept (next value)) : Keeps kept (first >>= next) := by
  intro world holds
  apply (begins world holds).bind
  intro value middle still
  exact goesOn value middle still

theorem keeps_pure (value : α) : Keeps kept (pure value : Run α) := fun _ holds => holds

theorem keeps_throw (fault : Fault) : Keeps kept (throw fault : Run α) := fun _ holds => holds

theorem keeps_get : Keeps kept (get : Run World) := fun _ holds => holds

theorem keeps_machine : Keeps kept machine := fun _ holds => holds

theorem keeps_lift (kind : Cause → Fault) (value : Except Cause α) : Keeps kept (lift kind value) := by
  cases value with
  | ok value => exact keeps_pure value
  | error cause => exact keeps_throw (kind cause)

theorem keeps_ite {condition : Prop} [Decidable condition] {first second : Run α}
    (whenTrue : Keeps kept first) (whenFalse : Keeps kept second) :
    Keeps kept (if condition then first else second) := by
  split
  case isTrue => exact whenTrue
  case isFalse => exact whenFalse

theorem Keeps.discard {activity : Run α} (keeps : Keeps kept activity) :
    Keeps kept (discard activity : Run Unit) := by
  intro world holds
  have result := keeps world holds
  unfold Yields at result ⊢
  rw [discard_eq]
  cases ended : activity world with
  | ok value after =>
      rw [ended] at result
      exact result
  | error fault after =>
      rw [ended] at result
      exact result

theorem keeps_emit (wrote : ∀ world bytes, kept world → kept (world.kept bytes))
    (called : ∀ world outcome, kept world → kept (world.called outcome)) (bytes : Bytes) :
    Keeps kept (emit bytes) := by
  intro world holds
  have written := wrote world bytes holds
  rw [yields_emit]
  refine ⟨fun _ => written, ?_⟩
  intro outlet _
  rw [yields_settle]
  exact ⟨fun _ => called _ _ written, fun _ _ => called _ _ written⟩

theorem keeps_flush (called : ∀ world outcome, kept world → kept (world.called outcome)) :
    Keeps kept flush := by
  intro world holds
  rw [yields_flush]
  refine ⟨fun _ => holds, ?_⟩
  intro outlet _
  have flushed := called world outlet.flush holds
  rw [yields_settle]
  exact ⟨fun _ => flushed, fun _ _ => flushed⟩

theorem keeps_read_byte (called : ∀ world outcome, kept world → kept (world.called outcome))
    (read : ∀ world, kept world → kept world.afterRead) : Keeps kept readByte := by
  intro world holds
  rw [yields_read_byte]
  apply (keeps_flush called world holds).mono
  · intro _ flushed still
    exact ⟨fun _ _ => read flushed still, fun _ _ => read flushed still⟩
  · intro _ _ still
    exact still

end Keeps

/-- An invariant that the primitives keep, logging apart. The history and the attached outlet of the machine
are changed by streams only, and the services by registrations only. -/
structure UnloggedPrimitivesKeep (kept : World → Prop) : Prop where
  machine : ∀ {world : World} {machine : Machine}, kept world →
    world.machine.SameNumbering machine → kept { world with machine }
  remark : ∀ {world : World} (notes : Array Note) (diagnostics : Array String), kept world →
    kept { world with host := { world.host with notes, diagnostics } }
  register : ∀ {world : World} {services : Services} {owner : String} {registration : Registration},
    kept world → world.host.services.register owner registration = .ok services →
    kept { world with host := { world.host with services } }
  emit : ∀ bytes, Keeps kept (emit bytes)
  read : Keeps kept readByte

namespace UnloggedPrimitivesKeep

variable {kept : World → Prop} (unlogged : UnloggedPrimitivesKeep kept)

include unlogged

theorem change {change : Machine → Machine}
    (same : ∀ machine : Machine, machine.SameNumbering (change machine)) :
    Keeps kept (modifyMachine change) := by
  intro world holds
  exact unlogged.machine holds (same world.machine)

theorem effect {owner : String} {weight : Nat} {before after : World} (holds : kept before)
    (effect : Scripting.Effect owner before weight after) : kept after := by
  cases effect with
  | nothing => exact holds
  | noted note => exact unlogged.remark _ before.host.diagnostics holds
  | changed same => exact unlogged.machine holds same
  | emitted bytes => exact yields_left.mp (unlogged.emit bytes before holds)
  | registered registers => exact unlogged.register holds registers

theorem effects {owner : String} {bound : Nat} {before after : World} (holds : kept before)
    (effects : Scripting.Effects owner bound before after) : kept after := by
  induction effects with
  | none => exact holds
  | more _ last ih => exact unlogged.effect (ih holds) last

theorem perform_all (call : Call) (arguments : List String) (script : List Action) :
    Keeps kept (performAll call arguments script) := by
  intro world holds
  apply (yields_perform_all call arguments script world).mono
  · exact fun _ _ effects => unlogged.effects holds effects
  · exact fun _ _ effects => unlogged.effects holds effects

theorem deliver_from (event : Event) (occasion : Occasion) (bound number : Nat)
    (arguments : List String) : Keeps kept (deliverFrom event occasion bound number arguments) := by
  induction bound generalizing number arguments with
  | zero => exact keeps_pure arguments
  | succ bound ih =>
      apply keeps_get.bind
      intro seen
      split
      · exact keeps_pure arguments
      · exact (unlogged.perform_all _ _ _).bind fun left => ih (number + 1) left

theorem notify (event : Event) (occasion : Occasion) (arguments : List String) :
    Keeps kept (notify event occasion arguments) := by
  intro world holds
  have delivers : Keeps kept (deliver event occasion arguments) :=
    keeps_get.bind fun _ => unlogged.deliver_from _ _ _ _ _
  have result := delivers world holds
  unfold Yields at result ⊢
  unfold Run.notify
  cases ended : deliver event occasion arguments world with
  | ok left after =>
      rw [ended] at result
      exact result
  | error fault after =>
      rw [ended] at result
      exact result

theorem clear_tape : Keeps kept clearTape :=
  Keeps.bind (unlogged.change fun _ => ⟨⟨rfl, rfl, rfl⟩, rfl⟩) fun _ => unlogged.emit _

theorem update_cell (change : UInt8 → UInt8) : Keeps kept (updateCell change) :=
  keeps_machine.bind fun _ => (keeps_lift _ _).bind fun _ => (keeps_lift _ _).bind fun _ =>
    unlogged.change fun _ => ⟨⟨rfl, rfl, rfl⟩, rfl⟩

theorem counted (count : Nat) (kind : Counted) : Keeps kept (execCounted count kind) := by
  cases kind with
  | increment => exact unlogged.update_cell _
  | decrement => exact unlogged.update_cell _
  | shiftLeft =>
      unfold execCounted shiftLeft
      exact unlogged.change fun _ => ⟨⟨rfl, rfl, rfl⟩, rfl⟩
  | shiftRight =>
      unfold execCounted shiftRight
      exact unlogged.change fun _ => ⟨⟨rfl, rfl, rfl⟩, rfl⟩

/-- Only for commands it has to be known that they keep the invariant, since they can log something. -/
theorem exec (instruction : Instruction) (ip : Int)
    (commands : ∀ text, instruction = .command text → Keeps kept (command text ip)) :
    Keeps kept (exec instruction ip) := by
  have cell : Keeps kept readCell := keeps_machine.bind fun _ => keeps_lift _ _
  cases instruction with
  | counted kind count => exact (unlogged.counted count kind).bind fun _ => keeps_pure _
  | output => exact cell.bind fun _ => (unlogged.emit _).bind fun _ => keeps_pure _
  | input =>
      have write (byte : UInt8) : Keeps kept (writeCell byte) :=
        keeps_machine.bind fun _ => (keeps_lift _ _).bind fun _ =>
          unlogged.change fun _ => ⟨⟨rfl, rfl, rfl⟩, rfl⟩
      exact unlogged.read.bind fun byte => (write byte).bind fun _ => keeps_pure _
  | loopStart target =>
      cases target with
      | none => exact keeps_throw _
      | some target => exact cell.bind fun _ => keeps_pure _
  | loopEnd start => exact cell.bind fun _ => keeps_pure _
  | command text => exact (commands text rfl).bind fun _ => keeps_pure _
  | foreign text => exact keeps_throw _

theorem judge (failure : Option Fault) : Keeps kept (judge failure) := by
  cases failure with
  | none => exact (unlogged.notify _ _ _).discard.bind fun _ => keeps_pure _
  | some fault =>
      exact (unlogged.notify _ _ _).discard.bind fun _ => keeps_machine.bind fun _ => keeps_pure _

end UnloggedPrimitivesKeep

/-- An invariant that the primitives keep, logging among them. -/
structure PrimitivesKeep (kept : World → Prop) : Prop where
  machine : ∀ {world : World} {machine : Machine}, kept world →
    world.machine.SameOutside machine → kept { world with machine }
  remark : ∀ {world : World} (notes : Array Note) (diagnostics : Array String), kept world →
    kept { world with host := { world.host with notes, diagnostics } }
  register : ∀ {world : World} {services : Services} {owner : String} {registration : Registration},
    kept world → world.host.services.register owner registration = .ok services →
    kept { world with host := { world.host with services } }
  emit : ∀ bytes, Keeps kept (emit bytes)
  read : Keeps kept readByte

namespace PrimitivesKeep

variable {kept : World → Prop} (primitives : PrimitivesKeep kept)

include primitives

theorem unlogged : UnloggedPrimitivesKeep kept where
  machine holds same := primitives.machine holds same.toSameOutside
  remark := primitives.remark
  register := primitives.register
  emit := primitives.emit
  read := primitives.read

theorem change {change : Machine → Machine}
    (same : ∀ machine : Machine, machine.SameOutside (change machine)) :
    Keeps kept (modifyMachine change) := by
  intro world holds
  exact primitives.machine holds (same world.machine)

theorem deliver_from (event : Event) (occasion : Occasion) (bound number : Nat)
    (arguments : List String) : Keeps kept (deliverFrom event occasion bound number arguments) :=
  primitives.unlogged.deliver_from event occasion bound number arguments

theorem notify (event : Event) (occasion : Occasion) (arguments : List String) :
    Keeps kept (notify event occasion arguments) :=
  primitives.unlogged.notify event occasion arguments

theorem skip_file (path : String) (fault : FileFault) : Keeps kept (skipFile path fault) := by
  intro world holds
  have pushed : kept
      { world with machine := { world.machine with skipped := world.machine.skipped.push path } } :=
    primitives.machine holds ⟨rfl, rfl, rfl⟩
  exact primitives.remark world.host.notes _ (primitives.machine pushed (Machine.same_outside_log_report _ _))

theorem load_files (loaded : List Instruction) (paths : List String) :
    Keeps kept (loadFiles loaded paths) := by
  induction paths generalizing loaded with
  | nil => exact keeps_pure loaded
  | cons path rest ih =>
      apply keeps_get.bind
      intro seen
      split
      · exact (keeps_lift _ _).bind fun fragment =>
          Keeps.bind (primitives.change fun machine => machine.same_outside_log_report _) fun _ => ih _
      · exact (primitives.skip_file _ _).bind fun _ => ih loaded
      · exact keeps_throw _

theorem handle (spec : CommandSpec) (arguments : List String) : Keeps kept (handle spec arguments) := by
  unfold Run.handle
  cases spec.handler with
  | includeFiles =>
      have included : Keeps kept (includeFiles arguments) :=
        (primitives.load_files [] arguments).bind fun _ => primitives.change fun _ => ⟨rfl, rfl, rfl⟩
      exact included.bind fun _ => keeps_pure _
  | clearTape => exact primitives.unlogged.clear_tape.bind fun _ => keeps_pure _
  | script actions => exact primitives.unlogged.perform_all _ _ _

theorem command (text : String) (ip : Int) : Keeps kept (command text ip) :=
  keeps_get.bind fun _ => (keeps_lift _ _).bind fun spec =>
    (primitives.notify _ _ _).bind fun arguments => (primitives.handle spec arguments).bind fun left =>
      (primitives.notify _ _ left).discard

theorem exec (instruction : Instruction) (ip : Int) : Keeps kept (exec instruction ip) :=
  primitives.unlogged.exec instruction ip fun text _ => primitives.command text ip

theorem step : Keeps kept step :=
  keeps_machine.bind fun before => (keeps_lift _ _).bind fun instruction =>
    Keeps.bind (primitives.change fun machine => machine.same_outside_log_report _) fun _ =>
      (primitives.exec instruction before.ip).bind fun _ => primitives.change fun _ => ⟨rfl, rfl, rfl⟩

theorem steps (fuel : Nat) : Keeps kept (steps fuel) := by
  induction fuel with
  | zero => exact keeps_machine.bind fun _ => keeps_pure _
  | succ fuel ih =>
      exact keeps_machine.bind fun _ => keeps_ite (keeps_pure true) (primitives.step.bind fun _ => ih)

end PrimitivesKeep

def judged (failure : Option Fault) (world : World) : Option Fault × World :=
  match judge failure world with
  | .ok verdict last => (verdict, last)
  | .error fault last => (some fault, last)

def conclusion (outlet : Outlet) (verdict : Option Fault) (last : World) : Ended :=
  match conclude last with
  | .ok left world => { world, outlet := left.getD outlet, verdict, fault := verdict }
  | .error fault world =>
    { world, outlet := world.machine.attached.getD outlet, verdict, fault := some fault }

theorem finish_eq_conclusion (outlet : Outlet) (failure : Option Fault) (world : World) :
    finish outlet failure world =
      conclusion outlet (judged failure world).1 (judged failure world).2 := by
  unfold finish judged
  cases judge failure world <;> rfl

def stopped (failure : Option Fault) (world : World) : EStateM.Result Fault World Bool :=
  match failure with
  | none => .ok true world
  | some fault => .error fault world

/-- How the run of a machine that has not halted goes: the start listeners refuse it, or its steps end,
its program is judged and the outlet is flushed. -/
inductive Course (fuel : Nat) (outlet : Outlet) (world : World) : Ended → Prop where
  | refused {fault : Fault} {after : World}
      (starts : notify .programStart .programStart [] (world.attach outlet) = .error fault after) :
      Course fuel outlet world {
        world := after
        outlet := after.machine.attached.getD outlet
        verdict := some fault
        fault := some fault }
  | concluded {arguments : List String} {started executed : World} {failure : Option Fault}
      (starts : notify .programStart .programStart [] (world.attach outlet) = .ok arguments started)
      (stops : steps fuel started = stopped failure executed) :
      Course fuel outlet world
        (conclusion outlet (judged failure executed).1 (judged failure executed).2)

theorem course_of_run {fuel : Nat} {outlet : Outlet} {world : World} {ended : Ended}
    (running : world.machine.halted = false) (ran : run fuel outlet world = some ended) :
    Course fuel outlet world ended := by
  have same : { world with machine := { world.machine with attached := some outlet } } =
      world.attach outlet := rfl
  simp only [run, running, same, Bool.false_eq_true, if_false, finish_eq_conclusion] at ran
  cases starts : notify .programStart .programStart [] (world.attach outlet) with
  | error fault after =>
      rw [starts] at ran
      cases ran
      exact .refused starts
  | ok arguments started =>
      rw [starts] at ran
      dsimp only at ran
      cases stops : steps fuel started with
      | error fault executed =>
          rw [stops] at ran
          cases ran
          exact .concluded starts stops
      | ok halted executed =>
          rw [stops] at ran
          cases halted with
          | false => cases ran
          | true =>
              cases ran
              exact .concluded starts stops

theorem Keeps.of_ok {kept : World → Prop} {activity : Run α} (keeps : Keeps kept activity)
    {world after : World} {value : α} (holds : kept world) (result : activity world = .ok value after) :
    kept after := (keeps world holds).of_ok result

theorem Keeps.of_error {kept : World → Prop} {activity : Run α} (keeps : Keeps kept activity)
    {world after : World} {fault : Fault} (holds : kept world)
    (result : activity world = .error fault after) : kept after := (keeps world holds).of_error result

theorem conclusion_keeps (kept : World → Prop)
    (called : ∀ world outcome, kept world → kept (world.called outcome))
    (detached : ∀ world, kept world →
      kept { world with machine := { world.machine with attached := none } })
    (outlet : Outlet) (verdict : Option Fault) {last : World} (holds : kept last) :
    kept (conclusion outlet verdict last).world := by
  have detaches : Keeps kept (modifyMachine fun machine => { machine with attached := none }) := detached
  have concludes : Keeps kept conclude :=
    (keeps_flush called).bind fun _ => keeps_machine.bind fun _ => detaches.bind fun _ => keeps_pure _
  unfold conclusion
  cases ended : conclude last with
  | ok left world => exact concludes.of_ok holds ended
  | error fault world => exact concludes.of_error holds ended

theorem UnloggedPrimitivesKeep.judged {kept : World → Prop} (unlogged : UnloggedPrimitivesKeep kept)
    {executed : World} (failure : Option Fault) (holds : kept executed) : kept (Run.judged failure executed).2 := by
  unfold Run.judged
  cases result : Run.judge failure executed with
  | ok verdict last => exact (unlogged.judge failure).of_ok holds result
  | error fault last => exact (unlogged.judge failure).of_error holds result

namespace PrimitivesKeep

variable {kept : World → Prop} (primitives : PrimitivesKeep kept)

include primitives

theorem stopped {fuel : Nat} {started executed : World} {failure : Option Fault}
    (holds : kept started) (stops : Run.steps fuel started = Run.stopped failure executed) :
    kept executed := by
  cases failure with
  | none => exact (primitives.steps fuel).of_ok holds stops
  | some fault => exact (primitives.steps fuel).of_error holds stops

theorem judged {executed : World} (failure : Option Fault) (holds : kept executed) :
    kept (Run.judged failure executed).2 :=
  primitives.unlogged.judged failure holds

end PrimitivesKeep

end Run

end TapeLang
