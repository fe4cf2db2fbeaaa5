import TapeLang.Proofs.Machine.Effects

/-!
What a script can do to the world. However it branches, whatever it catches and whether or not it fails in
the end, all of it is a sequence of a few effects: notes, changes of the machine, writes and registrations.
The listeners that come of the registrations weigh no more than the script spells out.
-/

namespace TapeLang

structure Machine.SameOutside (before after : Machine) : Prop where
  history : after.history = before.history
  attached : after.attached = before.attached
  limit : after.log.limit = before.log.limit

structure Machine.SameNumbering (before after : Machine) : Prop extends before.SameOutside after where
  next : after.log.next = before.log.next

def Run.left (activity : Run α) (world : World) : World :=
  match activity world with
  | .ok _ after => after
  | .error _ after => after

theorem Run.yields_left {activity : Run α} {world : World} {holds : World → Prop} :
    Yields activity world (fun _ after => holds after) (fun _ after => holds after) ↔
      holds (left activity world) := by
  unfold Yields left
  cases activity world <;> rfl

namespace Scripting

/-- One effect of a script, with the weight of the listeners that it adds. -/
inductive Effect (owner : String) (world : World) : Nat → World → Prop where
  | nothing : Effect owner world 0 world
  | noted (note : Note) :
      Effect owner world 0
        { world with host := { world.host with notes := world.host.notes.push note } }
  | changed {machine : Machine} (same : world.machine.SameNumbering machine) :
      Effect owner world 0 { world with machine }
  | emitted (bytes : Bytes) : Effect owner world 0 ((Run.emit bytes).left world)
  | registered {registration : Registration} {services : Services}
      (registers : world.host.services.register owner registration = .ok services) :
      Effect owner world registration.listenerCount
        { world with host := { world.host with services } }

inductive Effects (owner : String) : Nat → World → World → Prop where
  | none (bound : Nat) (world : World) : Effects owner bound world world
  | more {bound weight : Nat} {before middle after : World} (earlier : Effects owner bound before middle)
      (last : Effect owner middle weight after) : Effects owner (bound + weight) before after

theorem Effects.mono {owner : String} {bound further : Nat} {before after : World}
    (effects : Effects owner bound before after) (within : bound ≤ further) :
    Effects owner further before after := by
  induction effects generalizing further with
  | none => exact .none further _
  | @more bound weight _ _ _ _ last ih =>
      have early := ih (show bound ≤ further - weight by omega)
      rw [← Nat.sub_add_cancel (show weight ≤ further by omega)]
      exact early.more last

theorem Effects.trans {owner : String} {first second : Nat} {before middle after : World}
    (early : Effects owner first before middle) (late : Effects owner second middle after) :
    Effects owner (first + second) before after := by
  induction late with
  | none => exact early.mono (Nat.le_add_right _ _)
  | more _ last ih =>
      rw [← Nat.add_assoc]
      exact (ih early).more last

def left (activity : Scripting α) (start : List String × World) : World :=
  match activity start with
  | .ok _ (_, after) => after
  | .error _ (_, after) => after

/-- All that the activity does are effects, and the listeners they add weigh no more than the bound. -/
def Does (owner : String) (bound : Nat) (activity : Scripting α) : Prop :=
  ∀ start, Effects owner bound start.2 (activity.left start)

section Does

variable {owner : String} {bound further : Nat}

theorem does_pure (value : α) : Does owner bound (pure value : Scripting α) := fun _ => .none _ _

theorem does_throw (fault : Fault) : Does owner bound (throw fault : Scripting α) := fun _ => .none _ _

theorem Does.mono {activity : Scripting α} (does : Does owner bound activity) (more : bound ≤ further) :
    Does owner further activity :=
  fun start => (does start).mono more

theorem Does.bind {first : Scripting α} {next : α → Scripting β} (begins : Does owner bound first)
    (goesOn : ∀ value, Does owner further (next value)) :
    Does owner (bound + further) (first >>= next) := by
  intro start
  have early := begins start
  unfold left at early ⊢
  rw [Run.bind_eq]
  cases result : first start with
  | ok value middle =>
      rw [result] at early
      exact early.trans (goesOn value middle)
  | error fault middle =>
      rw [result] at early
      exact early.mono (Nat.le_add_right _ _)

theorem does_sight {call : Call} {next : Sight → Scripting α}
    (goesOn : ∀ seen, Does owner bound (next seen)) : Does owner bound (sight call >>= next) :=
  fun start => goesOn ⟨start.2.machine, call.occasion, start.1⟩ start

/-- An activity whose failure is caught has had its effects all the same. -/
theorem does_recover {body rescue : Scripting Unit} (catches : Fault → Bool)
    (tried : Does owner bound body) (saved : Does owner further rescue) :
    Does owner (bound + further) (recover catches body rescue) := by
  intro start
  have early := tried start
  unfold left at early ⊢
  unfold recover
  cases result : body start with
  | ok value middle =>
      rw [result] at early
      exact early.mono (Nat.le_add_right _ _)
  | error fault middle =>
      rw [result] at early
      dsimp only
      cases catches fault with
      | false => exact early.mono (Nat.le_add_right _ _)
      | true => exact early.trans (saved middle)

theorem left_in_world (activity : Run α) (start : List String × World) :
    (inWorld activity).left start = activity.left start.2 := by
  obtain ⟨arguments, world⟩ := start
  unfold left Run.left inWorld
  dsimp only
  cases activity world <;> rfl

theorem does_in_world {activity : Run α}
    (acts : ∀ world, Run.Yields activity world (fun _ after => Effects owner bound world after)
      fun _ after => Effects owner bound world after) :
    Does owner bound (inWorld activity) := by
  intro start
  rw [left_in_world]
  exact Run.yields_left.mp (acts start.2)

end Does

section Actions

variable {owner : String} {world : World}

theorem Effect.once {weight : Nat} {after : World} (effect : Effect owner world weight after) :
    Effects owner weight world after := by
  have effects := Effects.more (.none 0 world) effect
  rwa [Nat.zero_add] at effects

theorem does_emit (bytes : Bytes) : Does owner 0 (inWorld (Run.emit bytes)) :=
  does_in_world fun _ => Run.yields_left.mpr (Effect.emitted bytes).once

theorem does_change {change : Machine → Machine}
    (same : ∀ machine : Machine, machine.SameNumbering (change machine)) :
    Does owner 0 (inWorld (Run.modifyMachine change)) :=
  does_in_world fun world => (Effect.changed (same world.machine)).once

theorem yields_append (fragment : List Instruction) :
    Run.Yields (Run.modifyMachine (·.append fragment)) world (fun _ after => Effects owner 0 world after)
      fun _ after => Effects owner 0 world after := by
  have same : world.machine.SameNumbering (world.machine.append fragment) := ⟨⟨rfl, rfl, rfl⟩, rfl⟩
  exact (Effect.changed same).once

theorem yields_append_increment (count : Int) :
    Run.Yields (Run.appendIncrement count) world (fun _ after => Effects owner 0 world after)
      fun _ after => Effects owner 0 world after := by
  unfold Run.appendIncrement
  rw [Run.yields_bind, Run.yields_lift]
  exact ⟨fun _ _ => yields_append _, fun _ _ => .none 0 world⟩

theorem does_double : Does owner 0 (inWorld Run.double) := by
  apply does_in_world
  intro world
  unfold Run.double
  rw [Run.yields_bind, Run.yields_machine, Run.yields_bind, Run.yields_lift]
  refine ⟨fun cell _ => ?_, fun _ _ => .none 0 world⟩
  split
  · exact yields_append_increment _
  · exact .none 0 world

theorem does_add_argument (call : Call) : Does owner 0 (addArgument call) := by
  apply does_sight
  intro seen
  split
  · exact does_throw _
  · apply does_in_world
    intro world
    rw [Run.yields_bind, Run.yields_lift]
    exact ⟨fun _ _ => yields_append_increment _, fun _ _ => .none 0 world⟩

theorem does_register (registration : Registration) :
    Does owner registration.listenerCount (inWorld (Run.register owner registration)) := by
  apply does_in_world
  intro world
  unfold Run.register
  rw [Run.yields_bind, Run.yields_get, Run.yields_bind, Run.yields_lift]
  exact ⟨fun _ registers => (Effect.registered registers).once, fun _ _ => .none _ world⟩

mutual

theorem does_perform (call : Call) (action : Action) :
    Does call.owner action.listenerCount (perform call action) := by
  cases action with
  | note tag => exact does_sight fun _ => does_in_world fun _ => (Effect.noted _).once
  | emit bytes => exact does_emit bytes
  | emitSeen bytes =>
      apply does_sight
      intro seen
      apply does_in_world
      intro world
      rw [Run.yields_bind, Run.yields_lift]
      exact ⟨fun _ _ => Run.yields_left.mpr (Effect.emitted _).once, fun _ _ => .none 0 world⟩
  | append source file mode =>
      apply does_in_world
      intro world
      rw [Run.yields_bind, Run.yields_lift]
      exact ⟨fun _ _ => yields_append _, fun _ _ => .none 0 world⟩
  | resetTape => exact does_change fun _ => ⟨⟨rfl, rfl, rfl⟩, rfl⟩
  | setPointer value =>
      have same (machine : Machine) : machine.SameNumbering { machine with pointer := value } :=
        ⟨⟨rfl, rfl, rfl⟩, rfl⟩
      exact does_change same
  | setIp value =>
      have same (machine : Machine) : machine.SameNumbering { machine with ip := value } :=
        ⟨⟨rfl, rfl, rfl⟩, rfl⟩
      exact does_change same
  | clearLog =>
      have same (machine : Machine) : machine.SameNumbering { machine with log := machine.log.clear } :=
        ⟨⟨rfl, rfl, rfl⟩, rfl⟩
      exact does_change same
  | double => exact does_double
  | addArgument => exact does_add_argument call
  | pushArgument text => exact fun _ => .none _ _
  | fail fault => exact does_throw fault
  | register registration => exact does_register registration
  | branch test yes no =>
      apply does_sight
      intro seen
      split
      · exact (does_perform_all call yes).mono (Nat.le_add_right _ _)
      · exact (does_perform_all call no).mono (Nat.le_add_left _ _)
  | attempt catches body rescue =>
      exact does_recover catches (does_perform_all call body) (does_perform_all call rescue)

theorem does_perform_all (call : Call) (script : List Action) :
    Does call.owner (scriptListenerCount script) (performAll call script) := by
  cases script with
  | nil => exact does_pure ()
  | cons action rest => exact (does_perform call action).bind fun _ => does_perform_all call rest

end

end Actions

end Scripting

theorem Run.yields_perform_all (call : Call) (arguments : List String) (script : List Action)
    (world : World) :
    Yields (performAll call arguments script) world
      (fun _ after => Scripting.Effects call.owner (scriptListenerCount script) world after)
      fun _ after => Scripting.Effects call.owner (scriptListenerCount script) world after := by
  have effects := Scripting.does_perform_all call script (arguments, world)
  unfold Scripting.left at effects
  unfold Yields performAll
  cases result : Scripting.performAll call script (arguments, world) with
  | ok value after =>
      rw [result] at effects
      exact effects
  | error fault after =>
      rw [result] at effects
      exact effects

end TapeLang
