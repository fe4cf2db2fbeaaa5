import TapeLang.Proofs.Machine.Frame
import TapeLang.Proofs.Machine.Upkeep
import TapeLang.Proofs.Stream.Calls

/-!
What leaves a run when nothing listens. The verdict on a program that failed is its own fault, completed
with the place, or a wrapped fault that belongs to no program. It leaves the run unless the last flush
raises something, which then leaves the run in its place.
-/

namespace TapeLang

def World.flushFault (world : World) : Option Fault :=
  world.machine.attached.bind fun outlet => outlet.flush.fault

/-- The same fault; a runtime fault may have been given a step, and an index if it had none. -/
inductive Fault.Completes : Fault → Fault → Prop where
  | same (fault : Fault) : Completes fault fault
  | located (fault : RuntimeFault) (ip step : Option Int)
      (kept : ∀ index, fault.ip = some index → ip = fault.ip) :
      Completes (.runtime fault) (.runtime { fault with ip, step })

theorem Services.register_listeners {before after : Services} {owner : String}
    {registration : Registration} (registered : before.register owner registration = .ok after) :
    before.listeners <+: after.listeners := by
  cases registration with
  | command name minArgs maxArgs doc script =>
      dsimp only [register] at registered
      generalize before.commands.add _ false = added at registered
      cases added with
      | error fault => cases registered
      | ok commands =>
          cases registered
          exact List.prefix_refl _
  | listener event script =>
      dsimp only [register] at registered
      split at registered
      · cases registered
        exact List.prefix_append _ _
      · cases registered
  | fail fault => cases registered

namespace Run

theorem primitives_keep_listeners (listeners : List Listener) :
    PrimitivesKeep fun world => listeners <+: world.host.services.listeners where
  machine holds _ := holds
  remark _ _ holds := holds
  register holds registered := holds.trans (Services.register_listeners registered)
  emit := keeps_emit (fun _ _ holds => holds) fun _ _ holds => holds
  read := keeps_read_byte (fun _ _ holds => holds) fun _ holds => holds

theorem flush_result (world : World) :
    (world.flushFault = none ∧ ∃ after, flush world = .ok () after) ∨
      ∃ fault after, world.flushFault = some fault ∧ flush world = .error fault after := by
  unfold World.flushFault
  rw [flush_eq]
  cases world.machine.attached with
  | none => exact .inl ⟨rfl, world, rfl⟩
  | some outlet =>
      dsimp only [Option.bind_some]
      rw [settle_eq]
      cases outlet.flush.fault with
      | none => exact .inl ⟨rfl, _, rfl⟩
      | some fault => exact .inr ⟨fault, _, rfl, rfl⟩

theorem ending_outcome (outlet : Outlet) (failure : Option Fault) (world : World) :
    (ending outlet failure world).verdict = failure.map (reported world.machine) ∧
      (ending outlet failure world).fault = world.flushFault.or (failure.map (reported world.machine)) := by
  unfold ending
  rcases flush_result world with ⟨passes, after, flushed⟩ | ⟨fault, after, raises, flushed⟩
  · rw [flushed, passes]
    exact ⟨rfl, rfl⟩
  · rw [flushed, raises]
    exact ⟨rfl, rfl⟩

theorem services_conclusion (outlet : Outlet) (verdict : Option Fault) (last : World) :
    (conclusion outlet verdict last).world.host.services = last.host.services :=
  conclusion_keeps (fun world => world.host.services = last.host.services) (fun _ _ same => same)
    (fun _ same => same) outlet verdict rfl

/-- When nothing listens at its end, a run is its steps and their ending, whatever commands are bound. -/
theorem ending_of_silent {fuel : Nat} {outlet : Outlet} {world : World} {ended : Ended}
    (ran : run fuel outlet world = some ended) (running : world.machine.halted = false)
    (silent : ended.world.host.services.listeners = []) :
    ∃ failure executed, steps fuel (world.attach outlet) = stopped failure executed ∧
      ended = ending outlet failure executed := by
  have quiet {listeners : List Listener} {later : World}
      (heard : listeners <+: later.host.services.listeners)
      (none : later.host.services.listeners = []) : listeners = [] :=
    List.prefix_nil.mp (none ▸ heard)
  cases course_of_run running ran with
  | refused starts =>
      have primitives := primitives_keep_listeners (world.attach outlet).host.services.listeners
      have heard := (primitives.notify _ _ _).of_error (List.prefix_refl _) starts
      rw [notify_silent _ _ _ (quiet heard silent)] at starts
      cases starts
  | @concluded arguments started executed failure starts stops =>
      rw [services_conclusion] at silent
      have still : executed.host.services.listeners = [] :=
        quiet ((primitives_keep_listeners _).judged failure (List.prefix_refl _)) silent
      have before : started.host.services.listeners = [] :=
        quiet ((primitives_keep_listeners _).stopped (List.prefix_refl _) stops) still
      have start : (world.attach outlet).host.services.listeners = [] :=
        quiet (((primitives_keep_listeners _).notify _ _ _).of_ok (List.prefix_refl _) starts) before
      rw [notify_silent _ _ _ start] at starts
      cases starts
      refine ⟨failure, executed, stops, ?_⟩
      rw [← finish_eq_conclusion, finish_eq_ending outlet failure still]

/-- A fault of a program is reported as it is, completed with its place; any other is wrapped. -/
theorem reported_cases (machine : Machine) (fault : Fault) :
    (fault.ofProgram = true → fault.Completes (reported machine fault)) ∧
      (fault.ofProgram = false → ∃ wrapped, reported machine fault = .runtime wrapped ∧
        wrapped.cause = .unexpected fault.message ∧ wrapped.rule = some "internal") := by
  cases fault with
  | runtime fault =>
      refine ⟨fun _ => ?_, nofun⟩
      apply Fault.Completes.located
      intro index known
      rw [known]
      rfl
  | program text => exact ⟨fun _ => .same _, nofun⟩
  | badSyntax fault => exact ⟨fun _ => .same _, nofun⟩
  | _ => exact ⟨nofun, fun _ => ⟨_, rfl, rfl, rfl⟩⟩

end Run

/-- When nothing listens, a run that has not halted comes to its verdict from its steps. It raises faults
of programs only, just when the last flush raises nothing else; and what it raises is the verdict, just
when the last flush raises nothing that differs from it. -/
theorem verdict_leaves_run_iff_last_flush_passes {fuel : Nat} {outlet : Outlet} {world : World}
    {ended : Ended} (ran : Run.run fuel outlet world = some ended)
    (silent : ended.world.host.services.listeners = []) :
    (world.machine.halted = true → ended.fault = none) ∧
      (world.machine.halted = false → ∃ failure executed,
        Run.steps fuel (world.attach outlet) = Run.stopped failure executed ∧
        (failure = none → ended.verdict = none) ∧
        (∀ fault, failure = some fault → ∃ verdict, ended.verdict = some verdict ∧
          (fault.ofProgram = true → fault.Completes verdict) ∧
          (fault.ofProgram = false → ∃ wrapped, verdict = .runtime wrapped ∧
            wrapped.cause = .unexpected fault.message ∧ wrapped.rule = some "internal")) ∧
        ((∀ fault, ended.fault = some fault → fault.ofProgram = true) ↔
          ∀ raised, executed.flushFault = some raised → raised.ofProgram = true) ∧
        (ended.fault = ended.verdict ↔
          ∀ raised, executed.flushFault = some raised → ended.verdict = some raised)) := by
  constructor
  · intro halted
    rw [Run.run_of_halted fuel outlet halted] at ran
    cases ran
    rfl
  · intro running
    obtain ⟨failure, executed, stops, rfl⟩ := Run.ending_of_silent ran running silent
    obtain ⟨verdict, fault⟩ := Run.ending_outcome outlet failure executed
    refine ⟨failure, executed, stops, ?_, ?_, ?_, ?_⟩
    · rintro rfl
      exact verdict
    · rintro raised rfl
      exact ⟨_, verdict, Run.reported_cases executed.machine raised⟩
    · rw [fault]
      cases executed.flushFault with
      | none =>
          refine ⟨nofun, ?_⟩
          intro _ left raised
          obtain ⟨caught, -, rfl⟩ := Option.map_eq_some_iff.mp raised
          exact Run.reported_of_program executed.machine caught
      | some raised => simp
    · rw [fault, verdict]
      cases executed.flushFault with
      | none => simp
      | some raised => simp [eq_comm]

def failingRead : Setup where
  program := [.input]
  source := .queue [] (.failure (.value (.described "bad")))

/-- A read that fails unexpectedly is wrapped, and the wrapped fault leaves the run. -/
theorem failing_read_leaves_run_wrapped :
    ∃ (world : World) (ended : Ended),
      world.source = .queue [] (.failure (.value (.described "bad"))) ∧
      Run.run 9 (.direct {}) world = some ended ∧ ended.world.host.services.listeners = [] ∧
      ended.fault = some (.runtime
        { cause := .unexpected "bad", ip := some 0, rule := some "internal", step := some 1 }) ∧
      ended.fault = ended.verdict ∧ ∃ failure executed,
        Run.steps 9 (world.attach (.direct {})) = Run.stopped failure executed ∧
        ∀ raised, executed.flushFault = some raised → ended.verdict = some raised := by
  have shown : (Run.run 9 (.direct {}) failingRead.world).map
      (fun ended => (ended.world.host.services.listeners.isEmpty, ended.fault, ended.verdict)) =
      some (true, some (.runtime
          { cause := .unexpected "bad", ip := some 0, rule := some "internal", step := some 1 }),
        some (.runtime
          { cause := .unexpected "bad", ip := some 0, rule := some "internal", step := some 1 })) := by
    decide +kernel
  obtain ⟨ended, ran, seen⟩ := Option.map_eq_some_iff.mp shown
  simp only [Prod.mk.injEq, List.isEmpty_iff] at seen
  obtain ⟨silent, fault, verdict⟩ := seen
  have same := fault.trans verdict.symm
  obtain ⟨failure, executed, stops, -, -, -, passes⟩ :=
    (verdict_leaves_run_iff_last_flush_passes ran silent).2 rfl
  exact ⟨_, ended, rfl, ran, silent, fault, same, failure, executed, stops, passes.mp same⟩

def unknownCommand : Setup where
  program := [.command "nope"]

/-- The last flush fails after an unknown command: a fault that belongs to no program leaves the run, in the
place of the program's own. -/
theorem failing_flush_masks_unknown_command :
    ∃ (world : World) (outlet : Outlet) (ended : Ended),
      world.host.services.Builtin ∧ Run.run 9 outlet world = some ended ∧
      ended.verdict = some (.runtime
        { cause := .unsupported "nope" [], ip := some 0, rule := some "command", step := some 1 }) ∧
      ended.fault = some (.file (.described "gone")) ∧
      Fault.ofProgram (.file (.described "gone")) = false := by
  have shown : (Run.run 9 (.direct (.failingFlush 0)) unknownCommand.world).map
      (fun ended => (ended.verdict, ended.fault)) =
      some (some (.runtime
        { cause := .unsupported "nope" [], ip := some 0, rule := some "command", step := some 1 }),
        some (.file (.described "gone"))) := by
    decide +kernel
  obtain ⟨ended, ran, seen⟩ := Option.map_eq_some_iff.mp shown
  simp only [Prod.mk.injEq] at seen
  exact ⟨_, _, ended, unknownCommand.builtin rfl, ran, seen.1, seen.2, rfl⟩

end TapeLang
