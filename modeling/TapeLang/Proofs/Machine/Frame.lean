import TapeLang.Proofs.Machine.Safety
import TapeLang.Proofs.Machine.Coupling

/-!
Where control can be. An instruction leaves the index alone, which only a step moves; and since brackets
match within every fragment that is appended, control that stands behind a well-formed front never comes
back into it. This holds of every run, also of one whose streams fail in any way.
-/

namespace TapeLang

theorem WellFormed.stays_behind {front program : List Instruction} (frontWell : WellFormed front)
    (well : WellFormed program) (leads : front <+: program) {index : Nat} {instruction : Instruction}
    {next : Int} (found : program[index]? = some instruction) (behind : front.length ≤ index)
    (goes : instruction.GoesTo index next) :
    ∃ target : Nat, next = target ∧ front.length ≤ target ∧ target ≤ program.length := by
  obtain ⟨target, rfl, bound⟩ := well.goes_to found goes
  refine ⟨target, rfl, ?_, bound⟩
  cases goes with
  | next => omega
  | past =>
      obtain ⟨past, same, after, -, -⟩ := well.opening index _ found
      simp only [Option.some.injEq] at same
      omega
  | back =>
      obtain ⟨first, same, -, opens⟩ := well.closing index _ found
      obtain rfl : target = first := by omega
      apply Decidable.byContradiction
      intro outside
      -- a loop that starts in the front ends in the front
      have inside : target < front.length := by omega
      have started : front[target]? = some (.loopStart (some (index + 1 : Nat))) := by
        rw [← opens, List.prefix_iff_getElem?.mp leads target inside, List.getElem?_eq_getElem inside]
      obtain ⟨past, same, -, within, -⟩ := frontWell.opening target _ started
      simp only [Option.some.injEq] at same
      omega

/-- The attached outlet raises nothing that the given one could not raise. -/
def World.Mutes (outlet : Outlet) (world : World) : Prop :=
  ∀ other, world.machine.attached = some other → ∀ fault, other.Raises fault → outlet.Raises fault

theorem World.mutes_attach (outlet : Outlet) (world : World) : (world.attach outlet).Mutes outlet := by
  intro other attached fault raises
  cases attached
  exact raises

structure World.Stands (place : Int) (outlet : Outlet) (world : World) : Prop where
  builtin : world.host.services.Builtin
  ip : world.machine.ip = place
  mutes : world.Mutes outlet

namespace Run

variable {kept : World → Prop} {world : World}

theorem matched_self {activity : Run α} {values : α → α → Prop} (same : ∀ value, values value value)
    (yields : Yields activity world (fun _ after => kept after) fun _ after => kept after) :
    Matched values (Shared fun _ => True) (fun left right => left = right ∧ kept left)
      (activity world) (activity world) := by
  unfold Yields at yields
  cases result : activity world with
  | ok value after =>
      rw [result] at yields
      exact .ok (same value) ⟨rfl, yields⟩
  | error fault after =>
      rw [result] at yields
      exact .error ⟨rfl, trivial⟩ ⟨rfl, yields⟩

theorem yields_of_matched_self {activity : Run α} {values : α → α → Prop}
    {faults : Fault → Fault → Prop}
    (matched : Matched values faults (fun left right => left = right ∧ kept left) (activity world)
      (activity world)) :
    Yields activity world (fun _ after => kept after) fun _ after => kept after := by
  unfold Yields
  cases result : activity world with
  | ok value after =>
      rw [result] at matched
      cases matched with
      | ok _ still => exact still.2
  | error fault after =>
      rw [result] at matched
      cases matched with
      | error _ still => exact still.2

end Run

namespace World.Stands

variable {place : Int} {outlet : Outlet} {world : World}

theorem called (stands : world.Stands place outlet) {called : Called Outlet}
    (raises : ∀ fault, called.stream.Raises fault → outlet.Raises fault) :
    (world.called called).Stands place outlet := by
  refine { stands with mutes := ?_ }
  intro other attached
  cases attached
  exact raises

theorem emit (stands : world.Stands place outlet) (bytes : Bytes) :
    Run.Yields (Run.emit bytes) world (fun _ after => after.Stands place outlet)
      fun _ after => after.Stands place outlet := by
  have kept : (world.kept bytes).Stands place outlet := { stands with }
  rw [Run.yields_emit]
  constructor
  · intro _
    exact kept
  · intro other attached
    have written : ((world.kept bytes).called (other.write bytes)).Stands place outlet :=
      kept.called fun fault raises =>
        stands.mutes other attached fault (Outlet.raises_of_write.2 raises)
    rw [Run.yields_settle]
    exact ⟨fun _ => written, fun _ _ => written⟩

theorem flush (stands : world.Stands place outlet) :
    Run.Yields Run.flush world (fun _ after => after.Stands place outlet)
      fun fault after => after.Stands place outlet ∧ outlet.Raises fault := by
  rw [Run.yields_flush]
  constructor
  · intro _
    exact stands
  · intro other attached
    have flushed : (world.called other.flush).Stands place outlet :=
      stands.called fun fault raises => stands.mutes other attached fault (Outlet.raises_of_flush.2 raises)
    rw [Run.yields_settle]
    refine ⟨fun _ => flushed, ?_⟩
    intro fault raised
    exact ⟨flushed, stands.mutes other attached fault (Outlet.raises_of_flush.1 raised)⟩

theorem readByte (stands : world.Stands place outlet) :
    Run.Yields Run.readByte world (fun _ after => after.Stands place outlet)
      fun _ after => after.Stands place outlet := by
  rw [Run.yields_read_byte]
  apply stands.flush.mono
  · intro _ flushed still
    have after : flushed.afterRead.Stands place outlet := { still with }
    exact ⟨fun _ _ => after, fun _ _ => after⟩
  · intro fault after still
    exact still.1

theorem coupling (place : Int) (outlet : Outlet) :
    Run.Coupling (fun left right => left = right ∧ left.Stands place outlet) fun _ => True where
  builtin := by
    rintro left right ⟨rfl, stands⟩
    exact ⟨stands.builtin, stands.builtin⟩
  files := by
    rintro left right ⟨rfl, stands⟩
    rfl
  tape := by
    rintro left right ⟨rfl, stands⟩
    rfl
  pointer := by
    rintro left right ⟨rfl, stands⟩
    rfl
  place := by
    rintro left right ⟨rfl, stands⟩ tape pointer
    exact ⟨rfl, { stands with }⟩
  event := by
    rintro left right ⟨rfl, stands⟩ rule details
    exact ⟨rfl, { stands with }⟩
  skip := by
    rintro left right ⟨rfl, stands⟩ path fault
    exact .ok trivial ⟨rfl, { stands with }⟩
  append := by
    rintro left right ⟨rfl, stands⟩ fragment
    exact ⟨rfl, { stands with }⟩
  emit := by
    rintro left right ⟨rfl, stands⟩ bytes
    exact Run.matched_self (fun _ => trivial) (stands.emit bytes)
  ordinary _ _ := trivial

theorem exec (stands : world.Stands place outlet) (instruction : Instruction) (ip : Int) :
    Run.Yields (Run.exec instruction ip) world (fun _ after => after.Stands place outlet)
      fun _ after => after.Stands place outlet := by
  apply Run.yields_of_matched_self
  apply (coupling place outlet).exec ⟨rfl, stands⟩ instruction ip
  intro _
  exact Run.matched_self (fun _ => rfl) stands.readByte

end World.Stands

namespace Run

theorem reported_of_program (machine : Machine) (fault : Fault) :
    (reported machine fault).ofProgram = true := by
  cases fault <;> rfl

theorem yields_any (activity : Run α) (world : World) :
    Yields activity world (fun _ _ => True) fun _ _ => True := by
  unfold Yields
  cases activity world <;> trivial

theorem yields_exec_goes (instruction : Instruction) (ip : Int) (world : World) :
    Yields (exec instruction ip) world (fun next _ => instruction.GoesTo ip next) fun _ _ => True := by
  cases instruction with
  | counted kind count => exact (yields_any _ world).bind fun _ _ _ => .next _
  | output =>
      exact (yields_any _ world).bind fun _ middle _ => (yields_any _ middle).bind fun _ _ _ => .next _
  | input =>
      exact (yields_any _ world).bind fun _ middle _ => (yields_any _ middle).bind fun _ _ _ => .next _
  | loopStart target =>
      cases target with
      | none => exact trivial
      | some target =>
          apply (yields_any _ world).bind
          intro cell middle _
          change Instruction.GoesTo ip _ (if cell = 0 then target else ip + 1)
          split
          · exact .past _
          · exact .next _
  | loopEnd start =>
      apply (yields_any _ world).bind
      intro cell middle _
      change Instruction.GoesTo ip _ (if cell = 0 then ip + 1 else start)
      split
      · exact .next _
      · exact .back _
  | command text => exact (yields_any _ world).bind fun _ _ _ => .next _
  | foreign text => exact trivial

end Run

/-- Control stands behind the front, in the program or just behind it. -/
structure World.StandsBehind (front : List Instruction) (world : World) : Prop where
  builtin : world.host.services.Builtin
  wellFormed : WellFormed world.machine.program.toList
  leads : front <+: world.machine.program.toList
  ip : ∃ index : Nat, world.machine.ip = index ∧ front.length ≤ index ∧
    index ≤ world.machine.program.toList.length

namespace World.StandsBehind

variable {front : List Instruction} {outlet : Outlet} {world : World}

theorem of_later {after : World} (standing : world.StandsBehind front) (later : world.Later after)
    (ip : ∃ index : Nat, after.machine.ip = index ∧ front.length ≤ index ∧
      index ≤ after.machine.program.toList.length) : after.StandsBehind front where
  builtin := later.builtin standing.builtin
  wellFormed := later.program.well_formed standing.wellFormed
  leads := standing.leads.trans later.program.keeps_front
  ip := ip

theorem ip_of_halted (standing : world.StandsBehind front) (halted : world.machine.halted = true) :
    world.machine.ip = world.machine.program.toList.length := by
  obtain ⟨index, here, -, bound⟩ := standing.ip
  have reached : (world.machine.program.size : Int) ≤ world.machine.ip := by
    simpa [Machine.halted] using halted
  rw [← Array.length_toList] at reached
  omega

/-- A step keeps behind the front. One that fails stays where it is, at an instruction. -/
theorem step (frontWell : WellFormed front) (standing : world.StandsBehind front) (mutes : world.Mutes outlet)
    (running : world.machine.halted = false) :
    Run.Yields Run.step world (fun _ after => after.StandsBehind front ∧ after.Mutes outlet)
      fun _ after => after.StandsBehind front ∧ after.Mutes outlet ∧ after.machine.halted = false := by
  obtain ⟨index, here, behind, -⟩ := standing.ip
  have inside : index < world.machine.program.toList.length := by
    have bound := Machine.halted_eq_false.mp running
    omega
  have found := List.getElem?_eq_getElem inside
  generalize world.machine.program.toList[index] = instruction at found
  have fetched := world.machine.fetch_inside found
  rw [← here] at fetched
  have logged : World.Stands world.machine.ip outlet
      { world with machine := world.machine.logStep instruction } := ⟨standing.builtin, rfl, mutes⟩
  have executed := logged.exec instruction world.machine.ip
  have goes := Run.yields_exec_goes instruction world.machine.ip
    { world with machine := world.machine.logStep instruction }
  have advances := Run.advances_exec instruction world.machine.ip logged.builtin
  rw [Run.yields_step fetched]
  unfold Run.Advances at advances
  unfold Run.Yields at executed goes advances ⊢
  cases result : Run.exec instruction world.machine.ip
      { world with machine := world.machine.logStep instruction } with
  | ok next after =>
      simp only [result] at executed goes advances ⊢
      rw [here] at goes
      obtain ⟨target, rfl, still, bound⟩ :=
        frontWell.stays_behind standing.wellFormed standing.leads found behind goes
      have longer := advances.program.keeps_front.length_le
      exact ⟨standing.of_later ⟨advances.program, advances.size, advances.services, advances.files⟩
        ⟨target, rfl, still, Nat.le_trans bound longer⟩, executed.mutes⟩
  | error fault after =>
      simp only [result] at executed advances ⊢
      have longer := advances.program.keeps_front.length_le
      have stays : after.machine.ip = index := executed.ip.trans here
      have bound : index < after.machine.program.toList.length := Nat.lt_of_lt_of_le inside longer
      refine ⟨standing.of_later ⟨advances.program, advances.size, advances.services, advances.files⟩
        ⟨index, stays, behind, Nat.le_of_lt bound⟩, executed.mutes, ?_⟩
      rw [Machine.halted_eq_false, stays]
      omega

theorem steps (frontWell : WellFormed front) (standing : world.StandsBehind front) (mutes : world.Mutes outlet)
    (fuel : Nat) :
    Run.Yields (Run.steps fuel) world
      (fun halted after => after.StandsBehind front ∧ after.Mutes outlet ∧ after.machine.halted = halted)
      fun _ after => after.StandsBehind front ∧ after.Mutes outlet ∧ after.machine.halted = false := by
  induction fuel generalizing world with
  | zero => exact ⟨standing, mutes, rfl⟩
  | succ fuel ih =>
      cases halted : world.machine.halted with
      | true =>
          rw [Run.yields_steps_of_halted fuel halted]
          exact ⟨standing, mutes, halted⟩
      | false =>
          rw [Run.yields_steps_of_running fuel halted]
          apply (step frontWell standing mutes halted).mono
          · intro _ middle stepped
            exact ih stepped.1 stepped.2
          · intro fault after stopped
            exact stopped

theorem attach (standing : world.StandsBehind front) (outlet : Outlet) :
    (world.attach outlet).StandsBehind front :=
  { standing with }

theorem point (frontWell : WellFormed front) (standing : world.StandsBehind front) (outlet : Outlet)
    (fuel : Nat) : (Run.point outlet world fuel).StandsBehind front := by
  have stepped := steps frontWell (standing.attach outlet) (World.mutes_attach outlet world) fuel
  unfold Run.point
  cases result : Run.steps fuel (world.attach outlet) with
  | ok halted after => exact (stepped.of_ok result).1
  | error fault after => exact (stepped.of_error result).1

theorem flush (standing : world.StandsBehind front) (mutes : world.Mutes outlet) :
    Run.Yields Run.flush world
      (fun _ after => after.StandsBehind front ∧ after.machine.halted = world.machine.halted)
      fun fault after => after.StandsBehind front ∧ after.machine.halted = world.machine.halted ∧
        outlet.Raises fault := by
  rw [Run.yields_flush]
  constructor
  · intro _
    exact ⟨standing, rfl⟩
  · intro other attached
    have called : (world.called other.flush).StandsBehind front := { standing with }
    rw [Run.yields_settle]
    refine ⟨fun _ => ⟨called, rfl⟩, ?_⟩
    intro fault raised
    exact ⟨called, rfl, mutes other attached fault (Outlet.raises_of_flush.1 raised)⟩

/-- The verdict is on the program. What leaves the run is the verdict, or else what the last flush
raised. -/
theorem ending (standing : world.StandsBehind front) (mutes : world.Mutes outlet) (default : Outlet)
    (failure : Option Fault) :
    (Run.ending default failure world).world.StandsBehind front ∧
      (Run.ending default failure world).world.machine.halted = world.machine.halted ∧
      (Run.ending default failure world).verdict = failure.map (Run.reported world.machine) ∧
      ((Run.ending default failure world).fault = (Run.ending default failure world).verdict ∨
        ∃ fault, (Run.ending default failure world).fault = some fault ∧ outlet.Raises fault) := by
  have flushed := standing.flush mutes
  unfold Run.ending
  cases result : Run.flush world with
  | ok value after =>
      obtain ⟨still, halted⟩ := flushed.of_ok result
      exact ⟨{ still with }, halted, rfl, .inl rfl⟩
  | error fault after =>
      obtain ⟨still, halted, raises⟩ := flushed.of_error result
      exact ⟨still, halted, rfl, .inr ⟨fault, rfl, raises⟩⟩

theorem run (frontWell : WellFormed front) (standing : world.StandsBehind front) {fuel : Nat} {ended : Ended}
    (ran : Run.run fuel outlet world = some ended) :
    ended.world.StandsBehind front ∧ (ended.world.machine.halted = true ↔ ended.verdict = none) ∧
      (∀ fault, ended.verdict = some fault → fault.ofProgram = true) ∧
      (ended.fault = ended.verdict ∨ ∃ fault, ended.fault = some fault ∧ outlet.Raises fault) := by
  cases halted : world.machine.halted with
  | true =>
      rw [Run.run_of_halted fuel outlet halted] at ran
      cases ran
      exact ⟨standing, by simp [halted], by simp, .inl rfl⟩
  | false =>
      have stepped := steps frontWell (standing.attach outlet) (World.mutes_attach outlet world) fuel
      rw [Run.run_of_running fuel outlet standing.builtin halted] at ran
      cases result : Run.steps fuel (world.attach outlet) with
      | ok finished after =>
          rw [result] at ran
          cases finished with
          | false => cases ran
          | true =>
              cases ran
              obtain ⟨still, mutes, stopped⟩ := stepped.of_ok result
              obtain ⟨ends, same, verdict, left⟩ := ending still mutes outlet none
              exact ⟨ends, by rw [same, stopped, verdict]; simp, by rw [verdict]; simp, left⟩
      | error fault after =>
          rw [result] at ran
          cases ran
          obtain ⟨still, mutes, stopped⟩ := stepped.of_error result
          obtain ⟨ends, same, verdict, left⟩ := ending still mutes outlet (some fault)
          refine ⟨ends, by rw [same, stopped, verdict]; simp, ?_, left⟩
          intro reported raised
          rw [verdict] at raised
          cases raised
          exact Run.reported_of_program after.machine fault

end World.StandsBehind

end TapeLang
