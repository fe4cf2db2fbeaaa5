import TapeLang.Proofs.Extension.Loading
import TapeLang.Proofs.Machine.Chronicle
import TapeLang.Proofs.Machine.Console

/-!
Where bare faults come from. On streams that do not fail, a run raises faults of programs only, whatever
commands are bound and whoever listens. Instructions and built-in commands raise no bare ones, so that one
which leaves a run was raised by the handler of a bound command or by a listener.
-/

namespace TapeLang

structure World.Wired (world : World) : Prop where
  steady : world.Steady
  regular : world.source.Regular

theorem World.Wired.attach {world : World} {outlet : Outlet} (steady : outlet.Steady)
    (regular : world.source.Regular) : (world.attach outlet).Wired := by
  refine ⟨?_, regular⟩
  intro other same
  cases same
  exact steady

/-- The handler of the command raises the fault on some call, although no stream fails. -/
def CommandSpec.Raises (spec : CommandSpec) (fault : Fault) : Prop :=
  ∃ arguments world after, World.Wired world ∧ Run.handle spec arguments world = .error fault after

namespace Run

theorem Keeps.and {kept other : World → Prop} {activity : Run α} (keeps : Keeps kept activity)
    (likewise : Keeps other activity) : Keeps (fun world => kept world ∧ other world) activity := by
  intro world holds
  have first := keeps world holds.1
  have second := likewise world holds.2
  unfold Yields at first second ⊢
  cases result : activity world with
  | ok value after =>
      rw [result] at first second
      exact ⟨first, second⟩
  | error fault after =>
      rw [result] at first second
      exact ⟨first, second⟩

theorem PrimitivesKeep.and {kept other : World → Prop} (primitives : PrimitivesKeep kept)
    (likewise : PrimitivesKeep other) :
    PrimitivesKeep fun world => kept world ∧ other world where
  machine holds same := ⟨primitives.machine holds.1 same, likewise.machine holds.2 same⟩
  remark notes diagnostics holds :=
    ⟨primitives.remark notes diagnostics holds.1, likewise.remark notes diagnostics holds.2⟩
  register holds registered :=
    ⟨primitives.register holds.1 registered, likewise.register holds.2 registered⟩
  emit bytes := (primitives.emit bytes).and (likewise.emit bytes)
  read := primitives.read.and likewise.read

theorem primitives_keep_regular : PrimitivesKeep fun world => world.source.Regular where
  machine regular _ := regular
  remark _ _ regular := regular
  register regular _ := regular
  emit := keeps_emit (fun _ _ regular => regular) fun _ _ regular => regular
  read := keeps_read_byte (fun _ _ regular => regular) fun _ regular => regular.take.2

theorem primitives_keep_wired : PrimitivesKeep World.Wired := by
  have both : World.Wired = fun world => world.Steady ∧ world.source.Regular := by
    funext world
    exact propext ⟨fun wired => ⟨wired.1, wired.2⟩, fun holds => ⟨holds.1, holds.2⟩⟩
  rw [both]
  exact primitives_keep_steady.and primitives_keep_regular

theorem primitives_keep_bound (spec : CommandSpec) :
    PrimitivesKeep fun world => spec ∈ world.host.services.commands.specs where
  machine bound _ := bound
  remark _ _ bound := bound
  register bound registered := by
    obtain ⟨-, -, rfl⟩ := (Services.register_eq_ok_iff _).mp registered
    exact List.mem_append_left _ bound
  emit := keeps_emit (fun _ _ bound => bound) fun _ _ bound => bound
  read := keeps_read_byte (fun _ _ bound => bound) fun _ bound => bound

theorem byte_of_regular {delivery : Delivery} (regular : delivery.Regular) {fault : Fault}
    (failed : byteOf delivery = .error fault) : ¬fault.Bare := by
  cases regular with
  | byte byte => cases failed
  | nothing =>
      cases failed
      exact id
  | failure reason =>
      cases failed
      exact id

section Steps

variable {world after : World} {fault : Fault}

theorem dispatches_of_bare (wired : world.Wired) (bare : fault.Bare)
    (failed : step world = .error fault after) : ∃ text spec, world.Dispatches text spec := by
  apply Classical.byContradiction
  intro idle
  have plain : Yields step world (fun _ _ => True) fun fault _ => ¬fault.Bare := by
    cases fetched : world.machine.fetch world.machine.ip with
    | error cause =>
        rw [step, yields_bind, yields_machine, fetched]
        exact id
    | ok instruction =>
        have logged : World.Wired { world with machine := world.machine.logStep instruction } :=
          ⟨wired.steady, wired.regular⟩
        rw [yields_step fetched]
        by_cases commands : ∃ text, instruction = .command text
        case neg =>
          apply yields_exec_not_bare _ fun text same => commands ⟨text, same⟩
          · intro bytes
            exact (yields_emit_steady logged.steady bytes).mono (fun _ _ _ => trivial)
              fun _ _ => False.elim
          · apply (yields_read_byte_steady logged.steady).mono fun _ _ _ => trivial
            intro fault _ failed
            exact byte_of_regular logged.regular.take.1 failed.2
        case pos =>
          obtain ⟨text, rfl⟩ := commands
          rw [exec, yields_bind, command, yields_bind, yields_get, yields_bind, yields_lift]
          refine ⟨?_, fun _ _ => id⟩
          intro spec resolved
          obtain ⟨named, bound, accepted⟩ := resolve_eq_ok_iff.mp resolved
          exact absurd ⟨text, spec, fetched, named, bound, accepted⟩ idle
  exact plain.of_error failed bare

theorem Raises.not_calm {occasion : Occasion} (raises : Raises occasion world)
    (calm : ∀ listener ∈ world.host.services.listeners, listener.Calm) : False := by
  obtain ⟨listener, found, given, before, raised, last, failed⟩ := raises
  exact calm listener found occasion given before raised last failed

/-- A command that fails while all listeners are calm fails in its handler. -/
theorem Serves.raises_of_calm {name : String} {spec : CommandSpec} {arguments : List String}
    {moments : List Moment} (serves : Serves name spec arguments world moments (some fault) after)
    (wired : world.Wired) (calm : ∀ listener ∈ after.host.services.listeners, listener.Calm) :
    spec.Raises fault := by
  cases serves with
  | failed announced fails =>
      obtain ⟨event, -, told, -⟩ := announced
      exact ⟨_, _, _, (primitives_keep_wired.notify _ _ _).of_ok wired told, fails⟩
  | unannounced refuses =>
      obtain ⟨event, -, -, raises⟩ := refuses
      exact (raises.not_calm calm).elim
  | unconcluded announced handled refuses =>
      obtain ⟨event, -, -, raises⟩ := refuses
      exact (raises.not_calm calm).elim

theorem steps_bare {fuel : Nat} (wired : world.Wired) (bare : fault.Bare)
    (failed : steps fuel world = .error fault after)
    (calm : ∀ listener ∈ after.host.services.listeners, listener.Calm) :
    ∃ spec ∈ after.host.services.commands.specs, spec.Raises fault := by
  obtain ⟨count, before, led, -, fails⟩ := steps_error failed
  have still := (primitives_keep_wired.steps count).of_ok wired led
  obtain ⟨text, spec, dispatches⟩ := dispatches_of_bare still bare fails
  obtain ⟨moments, serves⟩ := (yields_step_serves dispatches).of_error fails
  have bound : spec ∈ before.host.services.commands.specs := List.mem_of_find?_eq_some dispatches.bound
  exact ⟨spec, (primitives_keep_bound spec).step.of_error bound fails,
    serves.raises_of_calm ⟨still.steady, still.regular⟩ calm⟩

end Steps

theorem notify_of_program {event : Event} {occasion : Occasion} {arguments : List String}
    {world after : World} {fault : Fault}
    (failed : notify event occasion arguments world = .error fault after) : fault.ofProgram = true := by
  unfold notify at failed
  cases delivered : deliver event occasion arguments world with
  | ok left last =>
      rw [delivered] at failed
      cases failed
  | error raised last =>
      rw [delivered] at failed
      cases failed
      unfold hookFault
      cases ours : raised.ofProgram with
      | true => exact ours
      | false => rfl

theorem eq_of_reported_bare {machine : Machine} {fault : Fault} (bare : (reported machine fault).Bare) :
    reported machine fault = fault := by
  cases fault with
  | program text => rfl
  | _ => exact bare.elim

/-- On streams that do not fail, what leaves a run is a fault of a program; if it is bare and the listeners
are calm, a bound command has raised it. -/
theorem run_fault_origin {fuel : Nat} {outlet : Outlet} {world : World} {ended : Ended} {fault : Fault}
    (steady : outlet.Steady) (regular : world.source.Regular)
    (ran : run fuel outlet world = some ended) (failed : ended.fault = some fault) :
    fault.ofProgram = true ∧
      (fault.Bare → (∀ listener ∈ ended.world.host.services.listeners, listener.Calm) →
        ∃ spec ∈ ended.world.host.services.commands.specs, spec.Raises fault) := by
  have wired : (world.attach outlet).Wired := .attach steady regular
  cases halted : world.machine.halted with
  | true =>
      rw [run_of_halted fuel outlet halted] at ran
      cases ran
      cases failed
  | false =>
      cases course_of_run halted ran with
      | refused starts =>
          cases failed
          exact ⟨notify_of_program starts, fun _ calm => ((raises_of_notify starts).not_calm calm).elim⟩
      | @concluded arguments started executed failure starts stops =>
          have begun := (primitives_keep_wired.notify _ _ _).of_ok wired starts
          have done := primitives_keep_wired.stopped begun stops
          have passes := (primitives_keep_wired.judged failure done).steady.flush_fault
          rw [(conclusion_outcome _ _ _).2, passes, Option.none_or] at failed
          rw [services_conclusion]
          rcases judged_of_notify failure executed with
            ⟨left, last, closes, judged⟩ | ⟨raised, last, refuses, judged⟩
          · rw [judged] at failed ⊢
            obtain ⟨raised, rfl, rfl⟩ := Option.map_eq_some_iff.mp failed
            refine ⟨reported_of_program last.machine raised, ?_⟩
            intro bare calm
            obtain ⟨event, -, told, -⟩ := closes
            have same := eq_of_reported_bare bare
            have listeners := ((primitives_keep_listeners _).notify _ _ _).of_ok (List.prefix_refl _) told
            rw [same] at bare ⊢
            obtain ⟨spec, bound, raises⟩ := steps_bare begun bare stops
              fun listener found => calm listener (listeners.subset found)
            exact ⟨spec, ((primitives_keep_bound spec).notify _ _ _).of_ok bound told, raises⟩
          · rw [judged] at failed ⊢
            cases failed
            obtain ⟨event, -, raised, raises⟩ := refuses
            exact ⟨notify_of_program raised, fun _ calm => (raises.not_calm calm).elim⟩

theorem not_raises_bare_of_builtin {spec : CommandSpec} {fault : Fault}
    (builtin : spec = Registry.includeSpec ∨ spec = Registry.clearSpec) (bare : fault.Bare) :
    ¬spec.Raises fault := by
  rintro ⟨arguments, world, after, wired, fails⟩
  have plain : Yields (handle spec arguments) world (fun _ _ => True) fun fault _ => ¬fault.Bare := by
    rcases builtin with rfl | rfl
    · change Yields (includeFiles arguments >>= _) world _ _
      rw [yields_bind]
      apply (yields_include_files arguments world).mono fun _ _ _ => trivial
      rintro fault after ⟨-, badSyntax | embeddedNul⟩ <;> exact id
    · have cleared : World.Steady { world with machine := world.machine.resetTape } := wired.steady
      change Yields (clearTape >>= _) world _ _
      rw [yields_bind, clearTape, yields_bind, yields_modify_machine]
      exact (yields_emit_steady cleared [clearByte]).mono (fun _ _ _ => trivial) fun _ _ => False.elim
  exact plain.of_error fails bare

end Run

end TapeLang
