import TapeLang.Proofs.Machine.Effects

/-!
Whole runs when nothing listens. A run then is its steps between attaching the outlet and flushing it
for the last time; the verdict on the program is the fault of the steps, completed with its place. Steps
can be cut in two anywhere.
-/

namespace TapeLang

def World.attach (world : World) (outlet : Outlet) : World :=
  { world with machine := { world.machine with attached := some outlet } }

theorem Machine.fetch_inside (machine : Machine) {index : Nat} {instruction : Instruction}
    (found : machine.program.toList[index]? = some instruction) :
    machine.fetch index = .ok instruction := by
  have counted : ¬(index : Int) < 0 := by omega
  have word : ¬(index : Int) < -IndexFault.wordBound := by
    have positive : (0 : Int) ≤ IndexFault.wordBound := by decide
    omega
  rw [Array.getElem?_toList] at found
  simp only [fetch, if_neg counted, if_neg word, Int.toNat_natCast, found]

theorem Machine.halted_eq_false {machine : Machine} :
    machine.halted = false ↔ machine.ip < machine.program.toList.length := by
  simp [Machine.halted]

namespace Run

theorem step_eq {world : World} {instruction : Instruction}
    (fetched : world.machine.fetch world.machine.ip = .ok instruction) :
    step world =
      (exec instruction world.machine.ip >>= fun next =>
        modifyMachine fun machine => { machine with ip := next } : Run Unit)
        { world with machine := world.machine.logStep instruction } := by
  rw [step, bind_eq]
  change (lift .index (world.machine.fetch world.machine.ip) >>= _ : Run Unit) world = _
  rw [fetched]
  rfl

theorem step_unfetched {world : World} {fault : IndexFault}
    (failed : world.machine.fetch world.machine.ip = .error fault) :
    step world = .error (.index fault) world := by
  rw [step, bind_eq]
  change (lift .index (world.machine.fetch world.machine.ip) >>= _ : Run Unit) world = _
  rw [failed]
  rfl

theorem steps_zero (world : World) : steps 0 world = .ok world.machine.halted world := rfl

theorem steps_succ_of_halted (fuel : Nat) {world : World} (halted : world.machine.halted = true) :
    steps (fuel + 1) world = .ok true world := by
  change (if world.machine.halted then pure true else step >>= fun _ => steps fuel : Run Bool) world = _
  rw [halted]
  rfl

theorem steps_of_halted (fuel : Nat) {world : World} (halted : world.machine.halted = true) :
    steps fuel world = .ok true world := by
  cases fuel with
  | zero => rw [steps_zero, halted]
  | succ fuel => exact steps_succ_of_halted fuel halted

theorem steps_succ_of_running (fuel : Nat) {world : World} (running : world.machine.halted = false) :
    steps (fuel + 1) world = (step >>= fun _ => steps fuel : Run Bool) world := by
  change (if world.machine.halted then pure true else step >>= fun _ => steps fuel : Run Bool) world = _
  rw [running]
  rfl

section Yields

variable {world : World} {failed : Fault → World → Prop}

theorem yields_step {done : Unit → World → Prop} {instruction : Instruction}
    (fetched : world.machine.fetch world.machine.ip = .ok instruction) :
    Yields step world done failed ↔
      Yields (exec instruction world.machine.ip)
        { world with machine := world.machine.logStep instruction }
        (fun next after => done () { after with machine := { after.machine with ip := next } })
        failed := by
  unfold Yields
  rw [step_eq fetched, bind_eq]
  cases exec instruction world.machine.ip
    { world with machine := world.machine.logStep instruction } <;> rfl

variable {done : Bool → World → Prop}

theorem yields_steps_of_halted (fuel : Nat) (halted : world.machine.halted = true) :
    Yields (steps (fuel + 1)) world done failed ↔ done true world := by
  unfold Yields
  rw [steps_succ_of_halted fuel halted]

theorem yields_steps_of_running (fuel : Nat) (running : world.machine.halted = false) :
    Yields (steps (fuel + 1)) world done failed ↔
      Yields step world (fun _ middle => Yields (steps fuel) middle done failed) failed := by
  rw [← yields_bind]
  unfold Yields
  rw [steps_succ_of_running fuel running]

end Yields

/-- Steps that do not halt can be taken in two parts; steps that halt or fail are not continued. -/
theorem steps_add (first second : Nat) (world : World) :
    steps (first + second) world =
      match steps first world with
      | .ok true middle => .ok true middle
      | .ok false middle => steps second middle
      | .error fault middle => .error fault middle := by
  induction first generalizing world with
  | zero =>
      rw [Nat.zero_add, steps_zero]
      cases halted : world.machine.halted with
      | false => rfl
      | true => exact steps_of_halted second halted
  | succ first ih =>
      rw [Nat.add_right_comm]
      cases halted : world.machine.halted with
      | true => rw [steps_succ_of_halted _ halted, steps_succ_of_halted _ halted]
      | false =>
          rw [steps_succ_of_running _ halted, steps_succ_of_running _ halted, bind_eq, bind_eq]
          cases step world with
          | ok value middle => exact ih middle
          | error fault middle => rfl

/-- The world after so many steps of a run, or as the run left it when it took fewer. -/
def point (outlet : Outlet) (world : World) (fuel : Nat) : World :=
  match steps fuel (world.attach outlet) with
  | .ok _ after => after
  | .error _ after => after

def ending (outlet : Outlet) (failure : Option Fault) (world : World) : Ended :=
  let verdict := failure.map (reported world.machine)
  match flush world with
  | .ok _ after =>
    { world := { after with machine := { after.machine with attached := none } }
      outlet := after.machine.attached.getD outlet
      verdict
      fault := verdict }
  | .error fault after =>
    { world := after, outlet := after.machine.attached.getD outlet, verdict, fault := some fault }

theorem finish_eq_ending (outlet : Outlet) (failure : Option Fault) {world : World}
    (silent : world.host.services.listeners = []) :
    finish outlet failure world = ending outlet failure world := by
  have judged : judge failure world = .ok (failure.map (reported world.machine)) world := by
    cases failure with
    | none =>
        rw [judge, bind_eq, discard_eq, notify_silent .programEnd (.programEnd 0) [] silent]
        rfl
    | some fault =>
        rw [judge, bind_eq, discard_eq, notify_silent .onError (.onError fault) [] silent]
        rfl
  unfold finish ending
  rw [judged]
  dsimp only
  rw [conclude, bind_eq]
  cases flush world with
  | ok value after => rfl
  | error fault after => rfl

/-- A run is its steps, from a world to which the outlet is attached, and their ending. -/
theorem run_eq (fuel : Nat) (outlet : Outlet) {world : World}
    (builtin : world.host.services.Builtin) :
    run fuel outlet world =
      if world.machine.halted then some { world, outlet, verdict := none, fault := none }
      else
        match steps fuel (world.attach outlet) with
        | .ok true after => some (ending outlet none after)
        | .ok false _ => none
        | .error fault after => some (ending outlet (some fault) after) := by
  have attached : (world.attach outlet).host.services.Builtin := builtin
  have started := notify_silent .programStart .programStart [] attached.silent
  have same : { world with machine := { world.machine with attached := some outlet } } =
      world.attach outlet := rfl
  simp only [run, same, started]
  split
  · rfl
  · have advances := advances_steps fuel attached
    cases result : steps fuel (world.attach outlet) with
    | ok halted after =>
        have silent := ((advances.of_ok result).builtin attached).silent
        cases halted with
        | false => rfl
        | true => exact congrArg some (finish_eq_ending outlet none silent)
    | error fault after =>
        have silent := ((advances.of_error result).builtin attached).silent
        exact congrArg some (finish_eq_ending outlet (some fault) silent)

def close (outlet : Outlet) : EStateM.Result Fault World Bool → Option Ended
  | .ok true after => some (ending outlet none after)
  | .ok false _ => none
  | .error fault after => some (ending outlet (some fault) after)

theorem run_of_halted (fuel : Nat) (outlet : Outlet) {world : World}
    (halted : world.machine.halted = true) :
    run fuel outlet world = some { world, outlet, verdict := none, fault := none } :=
  if_pos halted

theorem run_of_running (fuel : Nat) (outlet : Outlet) {world : World}
    (builtin : world.host.services.Builtin) (running : world.machine.halted = false) :
    run fuel outlet world = close outlet (steps fuel (world.attach outlet)) := by
  rw [run_eq fuel outlet builtin, running]
  rfl

theorem ending_later (outlet : Outlet) (failure : Option Fault) (world : World) :
    world.Later (ending outlet failure world).world := by
  have advances : Advances flush world := advances_flush
  unfold ending
  cases result : flush world with
  | ok value after => exact (advances.of_ok result).trans ⟨.refl, Nat.le_refl _, rfl, rfl⟩
  | error fault after => exact advances.of_error result

theorem point_later (outlet : Outlet) {world : World} (builtin : world.host.services.Builtin)
    (fuel : Nat) : world.Later (point outlet world fuel) := by
  have attached : world.Later (world.attach outlet) := ⟨.refl, Nat.le_refl _, rfl, rfl⟩
  have advances := advances_steps fuel (attached.builtin builtin)
  unfold point
  cases result : steps fuel (world.attach outlet) with
  | ok halted after => exact attached.trans (advances.of_ok result)
  | error fault after => exact attached.trans (advances.of_error result)

theorem point_add_later (outlet : Outlet) {world : World}
    (builtin : world.host.services.Builtin) (fuel more : Nat) :
    (point outlet world fuel).Later (point outlet world (fuel + more)) := by
  have reached := point_later outlet builtin fuel
  unfold point at reached ⊢
  rw [steps_add]
  cases result : steps fuel (world.attach outlet) with
  | error fault middle => exact .refl middle
  | ok halted middle =>
      rw [result] at reached
      cases halted with
      | true => exact .refl middle
      | false =>
          have advances := advances_steps more (reached.builtin builtin)
          dsimp only
          cases rest : steps more middle with
          | ok halted after => exact advances.of_ok rest
          | error fault after => exact advances.of_error rest

theorem run_after_point {fuel : Nat} {outlet : Outlet} {world : World} {ended : Ended}
    (builtin : world.host.services.Builtin) (ran : run fuel outlet world = some ended) :
    (point outlet world fuel).Later ended.world := by
  unfold point
  rw [run_eq fuel outlet builtin] at ran
  cases halted : world.machine.halted with
  | true =>
      rw [halted] at ran
      cases ran
      have stays : (world.attach outlet).machine.halted = true := halted
      rw [steps_of_halted fuel stays]
      exact ⟨.refl, Nat.le_refl _, rfl, rfl⟩
  | false =>
      rw [halted] at ran
      cases result : steps fuel (world.attach outlet) with
      | ok halted after =>
          rw [result] at ran
          cases halted with
          | false => cases ran
          | true =>
              cases ran
              exact ending_later outlet none after
      | error fault after =>
          rw [result] at ran
          cases ran
          exact ending_later outlet (some fault) after

theorem run_later {fuel : Nat} {outlet : Outlet} {world : World} {ended : Ended}
    (builtin : world.host.services.Builtin) (ran : run fuel outlet world = some ended) :
    world.Later ended.world :=
  (point_later outlet builtin fuel).trans (run_after_point builtin ran)

end Run

end TapeLang
