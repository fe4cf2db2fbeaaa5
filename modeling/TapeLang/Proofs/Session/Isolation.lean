import TapeLang.Proofs.Machine.Frame
import TapeLang.Proofs.Session.Safety

/-!
What a line leaves for the next one. A session that is at rest between lines executes, for each line, only
what was appended while it was fed. Whatever the streams do, it comes to rest again after the line, with
one exception: the program of the line fails, and then the last flush fails too and is not taken for a
failure of a program. Then the session stays at the instruction that failed, and the next line starts
there.
-/

namespace TapeLang

/-- The program failed, and what left the run in the place of that failure belongs to no program. -/
def Ended.Masked (ended : Ended) : Prop :=
  ended.verdict.isSome = true ∧ ∃ fault, ended.fault = some fault ∧ fault.ofProgram = false

def Operation.Masked (fuel : Nat) (scene : Scene) (operation : Operation) : Prop :=
  ∃ outlet world ended, operation.launch scene = some (outlet, world) ∧
    Run.run fuel outlet world = some ended ∧ ended.Masked

structure Scene.Rests (scene : Scene) : Prop where
  builtin : scene.world.host.services.Builtin
  wellFormed : WellFormed scene.program
  ip : scene.world.machine.ip = scene.program.length

/-- A scene that is reached by feeding lines, with no masked failure among them. -/
inductive Scene.Feeds (start : Scene) : Scene → Prop where
  | refl : Feeds start start
  | feed {scene after : Scene} {line : String} {input : Source} {sink : Option Channel} {fuel : Nat}
      (earlier : Feeds start scene)
      (performed : (Operation.feed line input sink).perform fuel scene = some after)
      (unmasked : ¬(Operation.feed line input sink).Masked fuel scene) : Feeds start after

theorem FailureReport.release_keeps (report : Option FailureReport) (world : World) :
    (release report world).2.machine.program = world.machine.program ∧
      (release report world).2.machine.ip = world.machine.ip ∧
      (release report world).2.host.services = world.host.services := by
  unfold release
  split
  · split <;> exact ⟨rfl, rfl, rfl⟩
  · exact ⟨rfl, rfl, rfl⟩

theorem Session.settle_keeps (session : Session) (ended : Ended) :
    (session.settle ended).world.machine.program = ended.world.machine.program ∧
      (session.settle ended).world.host.services = ended.world.host.services ∧
      (session.settle ended).world.machine.ip =
        if ended.fault.any Fault.ofProgram then (ended.world.machine.program.size : Int)
        else ended.world.machine.ip := by
  unfold settle
  cases ended.fault with
  | none => exact ⟨rfl, rfl, rfl⟩
  | some fault =>
      simp only [Option.any_some]
      by_cases ours : fault.ofProgram = true
      · simp only [if_pos ours]
        cases FailureReport.isWrapped ended.verdict <;> exact ⟨rfl, rfl, rfl⟩
      · simp only [if_neg ours]
        cases FailureReport.isWrapped ended.verdict <;> exact ⟨rfl, rfl, rfl⟩

/-- After a line the machine stands behind its program, unless the failure was masked; then it stands at
an instruction that the line brought. -/
theorem Session.settle_rests (session : Session) {front : List Instruction} {ended : Ended}
    (standing : ended.world.StandsBehind front)
    (halts : ended.world.machine.halted = true ↔ ended.verdict = none)
    (verdicts : ∀ fault, ended.verdict = some fault → fault.ofProgram = true)
    (left : ended.fault = ended.verdict ∨ ∃ fault, ended.fault = some fault) :
    (¬ended.Masked → Scene.Rests ⟨(session.settle ended).session, (session.settle ended).world⟩) ∧
      (ended.Masked → (front.length : Int) ≤ (session.settle ended).world.machine.ip ∧
        (session.settle ended).world.machine.ip <
          (session.settle ended).world.machine.program.toList.length) := by
  obtain ⟨program, services, ip⟩ := session.settle_keeps ended
  have builtin : (session.settle ended).world.host.services.Builtin := services ▸ standing.builtin
  have well : WellFormed (session.settle ended).world.machine.program.toList :=
    program ▸ standing.wellFormed
  constructor
  · intro unmasked
    refine ⟨builtin, well, ?_⟩
    rw [Scene.program, ip, program]
    split
    case isTrue => simp
    case isFalse foreign =>
      -- the line was not dropped, so nothing failed in it and the run has come to its end
      apply standing.ip_of_halted
      rw [halts, ← Option.not_isSome_iff_eq_none]
      intro failed
      obtain ⟨verdict, reached⟩ := Option.isSome_iff_exists.mp failed
      rcases left with same | ⟨fault, raised⟩
      · rw [same, reached, Option.any_some, verdicts verdict reached] at foreign
        exact foreign rfl
      · rw [raised, Option.any_some, Bool.not_eq_true] at foreign
        exact unmasked ⟨failed, fault, raised, foreign⟩
  · intro masked
    obtain ⟨failed, fault, raised, foreign⟩ := masked
    obtain ⟨index, here, behind, -⟩ := standing.ip
    have running : ended.world.machine.halted = false := by
      rw [Bool.eq_false_iff, ne_eq, halts]
      intro none
      rw [none] at failed
      cases failed
    rw [ip, program, raised, Option.any_some, foreign]
    have bound := Machine.halted_eq_false.mp running
    simp only [Bool.false_eq_true, if_false]
    omega

namespace Scene.Rests

variable {scene after : Scene} {line : String} {input : Source} {sink : Option Channel}

theorem halted (rests : scene.Rests) : scene.world.machine.halted = true := by
  have here := rests.ip
  rw [Scene.program, Array.length_toList] at here
  simp [Machine.halted, here]

theorem launched (rests : scene.Rests) {outlet : Outlet} {world : World}
    (launched : (Operation.feed line input sink).launch scene = some (outlet, world)) :
    world.StandsBehind scene.program ∧ outlet = .tee #[] sink := by
  rcases Operation.launch_cases launched with
    ⟨_, _, _, fragment, same, accepted, rfl, rfl⟩ | ⟨_, same, -⟩
  · cases same
    obtain ⟨program, ip, services⟩ := FailureReport.release_keeps scene.session.report
      { scene.world with source := input, machine := scene.world.machine.append fragment }
    have grown : (scene.world.machine.append fragment).program.toList =
        scene.program ++ relocate scene.program.length fragment := Machine.append_program _ _
    refine ⟨⟨?_, ?_, ?_, scene.program.length, ?_, Nat.le_refl _, ?_⟩, rfl⟩
    · rw [services]
      exact rests.builtin
    · rw [program, grown]
      exact rests.wellFormed.append (.of_parse accepted)
    · rw [program, grown]
      exact List.prefix_append _ _
    · rw [ip]
      exact rests.ip
    · rw [program, grown, List.length_append]
      omega
  · cases same

theorem feed (rests : scene.Rests) {fuel : Nat}
    (performed : (Operation.feed line input sink).perform fuel scene = some after) :
    (¬(Operation.feed line input sink).Masked fuel scene → after.Rests) ∧
      ((Operation.feed line input sink).Masked fuel scene →
        (scene.program.length : Int) ≤ after.world.machine.ip ∧
        after.world.machine.ip < after.program.length ∧
        ∃ fault, fault.ofProgram = false ∧ (Outlet.tee #[] sink).Raises fault) := by
  cases launches : (Operation.feed line input sink).launch scene with
  | none =>
      -- the line was rejected, and the machine is as it was
      have same : after.world.machine = scene.world.machine ∧
          after.world.host.services = scene.world.host.services := by
        unfold Operation.launch at launches
        unfold Operation.perform Session.feed at performed
        cases accepted : parse (Text.encode line) Session.lineFile .command with
        | ok fragment =>
            simp only [accepted] at launches
            cases launches
        | error fault =>
            simp only [accepted] at performed
            cases performed
            exact ⟨rfl, rfl⟩
      constructor
      · intro _
        refine ⟨same.2 ▸ rests.builtin, ?_, ?_⟩
        · rw [Scene.program, same.1]
          exact rests.wellFormed
        · rw [Scene.program, same.1]
          exact rests.ip
      · rintro ⟨outlet, world, ended, found, -, -⟩
        rw [launches] at found
        cases found
  | some start =>
      rcases start with ⟨outlet, world⟩
      obtain ⟨standing, rfl⟩ := rests.launched launches
      obtain ⟨report, runs⟩ := Operation.perform_of_launch launches
      rw [runs] at performed
      obtain ⟨ended, ran, rfl⟩ := Option.map_eq_some_iff.mp performed
      obtain ⟨ends, halts, verdicts, left⟩ := standing.run rests.wellFormed ran
      have masks : (Operation.feed line input sink).Masked fuel scene ↔ ended.Masked := by
        constructor
        · rintro ⟨_, _, other, found, again, masked⟩
          cases launches.symm.trans found
          cases ran.symm.trans again
          exact masked
        · intro masked
          exact ⟨_, _, ended, launches, ran, masked⟩
      have leaves : ended.fault = ended.verdict ∨ ∃ fault, ended.fault = some fault := by
        rcases left with same | ⟨fault, raised, -⟩
        · exact .inl same
        · exact .inr ⟨fault, raised⟩
      have settled := Session.settle_rests
        { scene.session with inputs := scene.session.inputs.push line, report } ends halts verdicts leaves
      rw [masks]
      refine ⟨settled.1, ?_⟩
      intro masked
      refine ⟨(settled.2 masked).1, (settled.2 masked).2, ?_⟩
      rcases masked with ⟨failed, fault, raised, foreign⟩
      rcases left with same | ⟨other, raisedToo, raises⟩
      · rw [verdicts fault (same.symm.trans raised)] at foreign
        cases foreign
      · cases raised.symm.trans raisedToo
        exact ⟨fault, foreign, raises⟩

end Scene.Rests

theorem Scene.Fresh.rests {scene : Scene} (fresh : scene.Fresh) (empty : scene.program = []) :
    scene.Rests := by
  refine ⟨fresh.builtin, fresh.well_formed, ?_⟩
  rcases fresh.created with ⟨file, verbose, tapeSize, created⟩
  unfold Machine.create at created
  split at created
  case isTrue => cases created
  case isFalse =>
    rw [← Except.ok.inj created, empty]
    rfl

theorem Scene.Feeds.rests {start scene : Scene} (rests : start.Rests) (fed : start.Feeds scene) :
    scene.Rests := by
  induction fed with
  | refl => exact rests
  | feed _ performed unmasked ih => exact (ih.feed performed).1 unmasked

/-- As long as no failure was masked, the machine has halted behind its program after every line, and the
next line executes only what is appended while it is fed. A line is left behind just when its failure is
masked, which takes a sink that raises a fault of its own. -/
theorem line_left_behind_iff_masked {start scene : Scene} (fresh : start.Fresh)
    (empty : start.program = []) (fed : start.Feeds scene) :
    scene.world.machine.halted = true ∧ scene.world.machine.ip = scene.program.length ∧
      ∀ (line : String) (input : Source) (sink : Option Channel),
        (∀ outlet world, (Operation.feed line input sink).launch scene = some (outlet, world) →
          ∀ fuel, scene.program <+: (Run.point outlet world fuel).machine.program.toList ∧
            scene.program.length ≤ (Run.point outlet world fuel).machine.ip) ∧
        ∀ fuel after, (Operation.feed line input sink).perform fuel scene = some after →
          (after.world.machine.ip = after.program.length ↔
            ¬(Operation.feed line input sink).Masked fuel scene) ∧
          ((Operation.feed line input sink).Masked fuel scene →
            scene.program.length ≤ after.world.machine.ip ∧
            after.world.machine.ip < after.program.length ∧
            ∃ fault, fault.ofProgram = false ∧ (Outlet.tee #[] sink).Raises fault) := by
  have rests := fed.rests (fresh.rests empty)
  refine ⟨rests.halted, rests.ip, ?_⟩
  intro line input sink
  constructor
  · intro outlet world launched fuel
    obtain ⟨standing, rfl⟩ := rests.launched launched
    have reached := standing.point rests.wellFormed (.tee #[] sink) fuel
    obtain ⟨index, here, behind, -⟩ := reached.ip
    exact ⟨reached.leads, by omega⟩
  · intro fuel after performed
    obtain ⟨quiet, masked⟩ := rests.feed performed
    refine ⟨⟨?_, fun unmasked => (quiet unmasked).ip⟩, masked⟩
    intro here masks
    have inside := (masked masks).2.1
    omega

/-- A line that fails in its middle, with nothing that could mask it, is not left behind. -/
theorem unsupported_command_not_left_behind :
    ∃ start scene : Scene, start.Fresh ∧ start.program = [] ∧ start.Feeds scene ∧
      scene.program = [.counted .increment 1, .command "nope", .output] ∧
      scene.session.report.map (·.fault) = some (.runtime
        { cause := .unsupported "nope" [], ip := some 1, rule := some "command", step := some 2 }) ∧
      scene.world.machine.halted = true ∧ scene.world.machine.ip = 3 := by
  let line : Operation := .feed "+#nope;." (.ofBytes []) none
  have fresh : (newSession []).scene.Fresh := (newSession []).fresh rfl (.inl rfl)
  have shown : (line.perform 9 (newSession []).scene).map
      (fun scene => (scene.program, scene.session.report.map (·.fault))) =
      some ([.counted .increment 1, .command "nope", .output], some (.runtime
        { cause := .unsupported "nope" [], ip := some 1, rule := some "command", step := some 2 })) := by
    decide +kernel
  obtain ⟨scene, performed, seen⟩ := Option.map_eq_some_iff.mp shown
  have program := congrArg Prod.fst seen
  have unmasked : ¬line.Masked 9 (newSession []).scene := by
    intro masked
    obtain ⟨-, -, fault, -, raises⟩ := ((fresh.rests rfl).feed performed).2 masked
    exact raises
  have fed : (newSession []).scene.Feeds scene := .feed .refl performed unmasked
  obtain ⟨halted, ip, -⟩ := line_left_behind_iff_masked fresh rfl fed
  rw [show scene.program = _ from program] at ip
  exact ⟨(newSession []).scene, scene, fresh, rfl, fed, program, congrArg Prod.snd seen, halted, ip⟩

/-- A line that fails while its sink cannot be flushed is left behind, and the next line starts with what
is left of it. -/
theorem failing_flush_leaves_line_behind :
    ∃ (start scene : Scene) (sink : Channel), start.Fresh ∧ start.program = [] ∧
      (Operation.feed "#nope;+" (.ofBytes []) (some sink)).perform 9 start = some scene ∧
      scene.world.machine.halted = false ∧ scene.world.machine.ip = 0 ∧ scene.program.length = 2 ∧
      ((Operation.feed "." (.ofBytes []) none).perform 9 scene).map
          (fun after => after.session.report.map (·.fault)) =
        some (some (.runtime
          { cause := .unsupported "nope" [], ip := some 0, rule := some "command", step := some 2 })) := by
  have fresh : (newSession []).scene.Fresh := (newSession []).fresh rfl (.inl rfl)
  have shown : ((Operation.feed "#nope;+" (.ofBytes []) (some (.failingFlush 0))).perform 9
      (newSession []).scene).map
      (fun scene => (scene.world.machine.halted, scene.world.machine.ip, scene.program.length,
        ((Operation.feed "." (.ofBytes []) none).perform 9 scene).map
          (fun after => after.session.report.map (·.fault)))) =
      some (false, 0, 2, some (some (.runtime
        { cause := .unsupported "nope" [], ip := some 0, rule := some "command", step := some 2 }))) := by
    decide +kernel
  obtain ⟨scene, performed, seen⟩ := Option.map_eq_some_iff.mp shown
  simp only [Prod.mk.injEq] at seen
  exact ⟨_, scene, _, fresh, rfl, performed, seen⟩

end TapeLang
