import TapeLang.Proofs.Machine.Verbosity
import TapeLang.Proofs.Session.Safety

/-!
Sessions with a machine that is not verbose. Whatever a client does, such a machine comes to what a verbose
one comes to, and differs from it only in the snapshots of its log.
-/

namespace TapeLang

def Scene.quiet (scene : Scene) : Scene := { scene with world := scene.world.quiet }

def Fed.quiet (fed : Fed) : Fed := { fed with world := fed.world.quiet }

theorem FailureReport.release_quiet (report : Option FailureReport) (world : World) :
    release report world.quiet = ((release report world).1, (release report world).2.quiet) := by
  have halted : world.quiet.machine.halted = world.machine.halted := rfl
  have attached : world.quiet.machine.attached = world.machine.attached := rfl
  unfold release
  rw [halted, attached]
  cases world.machine.halted with
  | true => rfl
  | false =>
      cases world.machine.attached with
      | none => rfl
      | some outlet =>
          cases report with
          | none => rfl
          | some report => cases report with
            | mk fault held => cases held <;> rfl

namespace Session

theorem run_quiet (fuel : Nat) (session : Session) (outlet : Outlet) {world : World}
    (builtin : world.host.services.Builtin) :
    session.run fuel outlet world.quiet =
      (session.run fuel outlet world).map fun (after, ended) => (after, ended.quiet) := by
  have released : (FailureReport.release session.report world).2.host.services.Builtin :=
    (FailureReport.follows_release session.report world).builtin builtin
  unfold Session.run
  rw [FailureReport.release_quiet]
  dsimp only
  rw [Run.run_quiet fuel outlet released, Option.map_map, Option.map_map]
  rfl

theorem settle_quiet (session : Session) (ended : Ended) :
    session.settle ended.quiet = (session.settle ended).quiet := by
  have fault : ended.quiet.fault = ended.fault := rfl
  have verdict : ended.quiet.verdict = ended.verdict := rfl
  unfold settle
  rw [fault]
  cases ended.fault with
  | none => rfl
  | some fault =>
      dsimp only
      rw [verdict]
      cases FailureReport.isWrapped ended.verdict <;> cases fault.ofProgram <;> rfl

theorem feed_quiet (fuel : Nat) (session : Session) (line : String) (sink : Option Channel)
    {world : World} (builtin : world.host.services.Builtin) :
    session.feed fuel line sink world.quiet = (session.feed fuel line sink world).map Fed.quiet := by
  unfold feed
  cases parse (Text.encode line) lineFile .command with
  | error fault => rfl
  | ok fragment =>
      have appended : World.quiet { world with machine := world.machine.append fragment } =
        { world.quiet with machine := world.quiet.machine.append fragment } := rfl
      dsimp only
      rw [← appended, run_quiet, Option.map_map, Option.map_map]
      · simp only [Function.comp_def, settle_quiet]
      · exact builtin

end Session

theorem Scene.Fresh.quiet {scene : Scene} (fresh : scene.Fresh) : scene.quiet.Fresh where
  session := fresh.session
  program := fresh.program
  created := by
    obtain ⟨file, verbose, tapeSize, created⟩ := fresh.created
    refine ⟨file, false, tapeSize, ?_⟩
    unfold Machine.create at created ⊢
    split at created
    case isTrue => cases created
    case isFalse positive =>
      rw [if_neg positive]
      have machine := (Except.ok.inj created).symm
      change _ = Except.ok scene.world.machine.quiet
      rw [machine]
      rfl
  builtin := fresh.builtin

namespace Operation

theorem launch_quiet {operation : Operation} {scene : Scene} {outlet : Outlet} {world : World}
    (launched : operation.launch scene = some (outlet, world)) :
    operation.launch scene.quiet = some (outlet, world.quiet) := by
  rcases launch_cases launched with
    ⟨line, input, sink, fragment, rfl, accepted, rfl, rfl⟩ | ⟨input, rfl, rfl⟩
  · have released := FailureReport.release_quiet scene.session.report
      { scene.world with source := input, machine := scene.world.machine.append fragment }
    simp only [launch, accepted]
    exact congrArg (fun released => some (Outlet.tee #[] sink, Prod.snd released)) released
  · have released := FailureReport.release_quiet scene.session.report { scene.world with source := input }
    exact congrArg (fun released => some (outlet, Prod.snd released)) released

/-- Every operation does the same with a machine that is not verbose. -/
theorem perform_quiet (operation : Operation) (fuel : Nat) {scene : Scene}
    (builtin : scene.world.host.services.Builtin) :
    operation.perform fuel scene.quiet = (operation.perform fuel scene).map Scene.quiet := by
  have supplied (input : Source) :
      ({ scene.world with source := input } : World).host.services.Builtin := builtin
  cases operation with
  | append source file mode =>
      simp only [perform]
      cases parse source file mode <;> rfl
  | feed line input sink =>
      have fed := Session.feed_quiet fuel scene.session line sink (supplied input)
      refine (congrArg (Option.map _) fed).trans ?_
      rw [perform, Option.map_map, Option.map_map]
      rfl
  | run input outlet =>
      have ran := Session.run_quiet fuel scene.session outlet (supplied input)
      refine (congrArg (Option.map _) ran).trans ?_
      rw [perform, Option.map_map, Option.map_map]
      congr 1
      funext result
      obtain ⟨session, ended⟩ := result
      have fault : ended.quiet.fault = ended.fault := rfl
      dsimp only [Function.comp]
      rw [fault]
      cases ended.fault <;> rfl
  | resetTape => rfl
  | emit bytes =>
      have covers : Machine.ReportChange.quiet.Covers scene.world scene.quiet.world := ⟨builtin, rfl⟩
      have emits := covers.emit bytes
      simp only [perform]
      generalize Run.emit bytes scene.world = result at emits
      generalize Run.emit bytes scene.quiet.world = quietResult at emits
      cases emits with
      | ok _ still =>
          rcases still with ⟨-, rfl⟩
          rfl
      | error shared still =>
          rcases shared with ⟨rfl, -⟩
          rcases still with ⟨-, rfl⟩
          rfl
  | replaceFiles files => rfl

end Operation

theorem Reaches.quiet {allowed : Operation → Prop} {start scene : Scene}
    (builtin : start.world.host.services.Builtin) (reached : Reaches allowed start scene) :
    Reaches allowed start.quiet scene.quiet := by
  induction reached with
  | refl => exact .refl
  | @step middle after operation fuel earlier permitted performed ih =>
      have follows := (earlier.follows builtin).builtin builtin
      apply ih.step permitted
      rw [operation.perform_quiet fuel follows, performed]
      rfl

end TapeLang
