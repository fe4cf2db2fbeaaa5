import TapeLang.Proofs.Machine.Failure
import TapeLang.Proofs.Session.Isolation

/-!
What stays attached between runs. The outlet of a run is attached before the start listeners are told, and
is let go of when it has been flushed for the last time. Once the start listeners have let the run begin,
every way out of it leads there, whatever the program, its commands and the other listeners do. A run that
the start listeners refuse is the one exception: its outlet stays attached, until a later run ends.
-/

namespace TapeLang

namespace Run

theorem primitives_keep_attached : PrimitivesKeep fun world => world.machine.attached.isSome = true where
  machine holds same := by
    dsimp only
    rw [same.attached]
    exact holds
  remark _ _ holds := holds
  register holds _ := holds
  emit := keeps_emit (fun _ _ holds => holds) fun _ _ _ => rfl
  read := keeps_read_byte (fun _ _ _ => rfl) fun _ holds => holds

def begins (outlet : Outlet) (world : World) : Bool :=
  match notify .programStart .programStart [] (world.attach outlet) with
  | .ok _ _ => true
  | .error _ _ => false

theorem conclusion_detached (outlet : Outlet) (verdict : Option Fault) {last : World}
    (steady : last.Steady) : (conclusion outlet verdict last).world.machine.attached = none := by
  have flushes := yields_flush_steady steady
  unfold conclusion
  rw [conclude, bind_eq]
  cases flushed : flush last with
  | ok value after => rfl
  | error fault after => exact (flushes.of_error flushed).elim

/-- A run on an outlet that does not fail ends without it, unless the start listeners refused the run. -/
theorem run_attached {fuel : Nat} {outlet : Outlet} {world : World} {ended : Ended}
    (steady : outlet.Steady) (running : world.machine.halted = false)
    (ran : run fuel outlet world = some ended) :
    ended.world.machine.attached.isSome = !begins outlet world := by
  have attached : (world.attach outlet).machine.attached.isSome = true := rfl
  have calm : (world.attach outlet).Steady := by
    intro other same
    cases same
    exact steady
  unfold begins
  cases course_of_run running ran with
  | refused starts =>
      rw [starts]
      exact (primitives_keep_attached.notify _ _ _).of_error attached starts
  | @concluded arguments started executed failure starts stops =>
      have still := (primitives_keep_steady.notify _ _ _).of_ok calm starts
      have last := primitives_keep_steady.judged failure (primitives_keep_steady.stopped still stops)
      rw [starts, conclusion_detached outlet _ last]
      rfl

end Run

def Operation.Steady : Operation → Prop
  | .feed _ _ sink => (Outlet.tee #[] sink).Steady
  | .run _ outlet => outlet.Steady
  | _ => True

/-- Whether the start listeners refuse the run that an operation makes. There is nothing to refuse when it
makes none, or when the machine has halted. -/
def Operation.refused? (scene : Scene) (operation : Operation) : Option Bool :=
  match operation.launch scene with
  | none => none
  | some (outlet, world) =>
    if world.machine.halted then none else some !Run.begins outlet world

theorem FailureReport.release_halted (report : Option FailureReport) {world : World}
    (halted : (release report world).2.machine.halted = true) :
    (release report world).2.machine = world.machine := by
  obtain ⟨program, ip, -⟩ := release_keeps report world
  have before : world.machine.halted = true := by
    unfold Machine.halted at halted ⊢
    rw [program, ip] at halted
    exact halted
  unfold release
  rw [before]

theorem Session.settle_attached (session : Session) (ended : Ended) :
    (session.settle ended).world.machine.attached.isSome =
      ended.world.machine.attached.isSome := by
  have kept : (FailureReport.keepAttached ended.world).machine.attached.isSome =
      ended.world.machine.attached.isSome := Option.isSome_map
  unfold settle
  cases ended.fault with
  | none => rfl
  | some fault =>
      dsimp only [file]
      cases FailureReport.isWrapped ended.verdict with
      | false => cases fault.ofProgram <;> rfl
      | true => cases fault.ofProgram <;> exact kept

namespace Operation

variable {operation : Operation} {scene after : Scene} {outlet : Outlet} {world : World} {fuel : Nat}

theorem resume_attached (scene : Scene) (operation : Operation) (report : Option FailureReport)
    (ended : Ended) :
    (operation.resume scene report ended).world.machine.attached.isSome =
      ended.world.machine.attached.isSome := by
  cases operation with
  | feed line input sink => exact Session.settle_attached _ ended
  | _ =>
      unfold resume
      cases ended.fault <;> rfl

theorem launch_attached (launched : operation.launch scene = some (outlet, world))
    (halted : world.machine.halted = true) :
    world.machine.attached = scene.world.machine.attached := by
  rcases launch_cases launched with
    ⟨line, input, sink, fragment, rfl, accepted, rfl, rfl⟩ | ⟨input, rfl, rfl⟩
  · rw [FailureReport.release_halted _ halted]
    rfl
  · rw [FailureReport.release_halted _ halted]

theorem launch_steady (steady : operation.Steady)
    (launched : operation.launch scene = some (outlet, world)) : outlet.Steady := by
  rcases launch_cases launched with
    ⟨line, input, sink, fragment, rfl, accepted, rfl, rfl⟩ | ⟨input, rfl, rfl⟩
  · exact steady
  · exact steady

/-- After an operation on outlets that do not fail, one is attached just when the start listeners refused
the run that the operation made, or when it made none and one was attached before. -/
theorem perform_attached (steady : operation.Steady)
    (performed : operation.perform fuel scene = some after) :
    after.world.machine.attached.isSome =
      (operation.refused? scene).getD scene.world.machine.attached.isSome := by
  unfold refused?
  cases launched : operation.launch scene with
  | none =>
      obtain ⟨_, _, _, attached, machine, -, same⟩ := idle_frame launched performed
      rw [machine]
      exact same
  | some start =>
      obtain ⟨report, runs⟩ := perform_of_launch launched
      rw [runs] at performed
      obtain ⟨ended, ran, rfl⟩ := Option.map_eq_some_iff.mp performed
      rw [resume_attached]
      dsimp only
      cases halted : start.2.machine.halted with
      | true =>
          rw [Run.run_of_halted fuel start.1 halted] at ran
          cases ran
          exact congrArg Option.isSome (launch_attached launched halted)
      | false => exact Run.run_attached (launch_steady steady launched) halted ran

end Operation

/-- Operations one after another on outlets that do not fail, and whether the latest run among them, of a
machine that had not halted, was refused by the start listeners. -/
inductive Scene.Trail (start : Scene) : Scene → Bool → Prop where
  | start : Trail start start false
  | next {scene after : Scene} {refused : Bool} {operation : Operation} {fuel : Nat}
      (earlier : Trail start scene refused) (steady : operation.Steady)
      (performed : operation.perform fuel scene = some after) :
      Trail start after ((operation.refused? scene).getD refused)

theorem Scene.Trail.attached {start scene : Scene} {refused : Bool}
    (idle : start.world.machine.attached = none) (trail : start.Trail scene refused) :
    scene.world.machine.attached.isSome = refused := by
  induction trail with
  | start => exact congrArg Option.isSome idle
  | next _ steady performed ih => rw [Operation.perform_attached steady performed, ih]

/-- Whatever commands and listeners there are, an outlet is attached between operations just when the
latest run was refused by the start listeners; otherwise what is emitted enters the history and reaches no
stream. -/
theorem outlet_stays_attached_iff_start_refused {start scene : Scene} {refused : Bool}
    (idle : start.world.machine.attached = none) (trail : start.Trail scene refused) :
    scene.world.machine.attached.isSome = refused ∧
      (refused = false → ∀ (bytes : Bytes) (fuel : Nat), ∃ after,
        (Operation.emit bytes).perform fuel scene = some after ∧
        after.world.machine.history.toList = scene.world.machine.history.toList ++ bytes ∧
        after.world.host = scene.world.host) := by
  have attached := trail.attached idle
  refine ⟨attached, ?_⟩
  intro began bytes fuel
  rw [began, Option.isSome_eq_false_iff, Option.isNone_iff_eq_none] at attached
  refine ⟨{ scene with world := scene.world.kept bytes }, ?_, Array.toList_append, rfl⟩
  simp only [Operation.perform, Run.emit_eq, attached]

def failingListener (event : Event) : Setup where
  program := [.output]
  services := { listeners := [⟨event, "", [.fail (.value (.described "boom"))]⟩] }

/-- A listener fails at the end of every run. The run raises its fault, but its outlet is let go of, and a
byte that is emitted afterwards does not reach it. -/
theorem failing_end_listener_leaves_nothing_attached :
    ∃ start scene after : Scene, start.world.machine.attached = none ∧ start.Trail scene false ∧
      scene.session.report.map (·.fault) = some (.runtime
        { cause := .hookFailed "program_end" "boom", ip := some 1, rule := some "EXT" }) ∧
      scene.world.machine.attached.isSome = false ∧
      (Operation.emit [65]).perform 0 scene = some after ∧
      after.world.machine.history.toList = scene.world.machine.history.toList ++ [65] ∧
      after.world.host = scene.world.host := by
  let operation : Operation := .run (.ofBytes []) (.direct {})
  have shown : (operation.perform 9 (failingListener .programEnd).scene).map
      (fun scene => scene.session.report.map (·.fault)) =
      some (some (.runtime
        { cause := .hookFailed "program_end" "boom", ip := some 1, rule := some "EXT" })) := by
    decide +kernel
  have begins : operation.refused? (failingListener .programEnd).scene = some false := by decide +kernel
  obtain ⟨scene, performed, failed⟩ := Option.map_eq_some_iff.mp shown
  have steady : operation.Steady := ⟨fun _ => rfl, fun _ => rfl⟩
  have trail := Scene.Trail.next .start steady performed
  rw [begins] at trail
  obtain ⟨attached, quiet⟩ := outlet_stays_attached_iff_start_refused rfl trail
  obtain ⟨after, emitted, history, same⟩ := quiet rfl [65] 0
  exact ⟨_, scene, after, rfl, trail, failed, attached, emitted, history, same⟩

/-- A start listener fails, and the outlet of the run that it refused stays attached: a byte that is emitted
afterwards is written to it. -/
theorem failing_start_listener_leaves_outlet_attached :
    ∃ (start scene after : Scene) (outlet : Outlet), start.world.machine.attached = none ∧
      outlet.Steady ∧ (Operation.run (.ofBytes []) outlet).perform 9 start = some scene ∧
      scene.session.report.map (·.fault) = some (.runtime
        { cause := .hookFailed "program_start" "boom", ip := some 0, rule := some "EXT" }) ∧
      scene.world.machine.attached.isSome = true ∧
      scene.world.host.trace = #[] ∧ (Operation.emit [65]).perform 0 scene = some after ∧
      after.world.host.trace = #[.wrote [65]] := by
  have shown : ((Operation.run (.ofBytes []) (.direct {})).perform 9
      (failingListener .programStart).scene).map
      (fun scene => (scene.session.report.map (·.fault), scene.world.machine.attached.isSome,
        scene.world.host.trace,
        ((Operation.emit [65]).perform 0 scene).map (·.world.host.trace))) =
      some (some (.runtime
        { cause := .hookFailed "program_start" "boom", ip := some 0, rule := some "EXT" }), true,
        #[], some #[.wrote [65]]) := by
    decide +kernel
  obtain ⟨scene, performed, seen⟩ := Option.map_eq_some_iff.mp shown
  simp only [Prod.mk.injEq] at seen
  obtain ⟨failed, attached, silent, written⟩ := seen
  obtain ⟨after, emitted, trace⟩ := Option.map_eq_some_iff.mp written
  exact ⟨_, scene, after, .direct {}, rfl, ⟨fun _ => rfl, fun _ => rfl⟩, performed, failed, attached,
    silent, emitted, trace⟩

end TapeLang
