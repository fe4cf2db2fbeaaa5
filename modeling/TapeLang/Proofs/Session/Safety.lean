import TapeLang.Proofs.Machine.Safety
import TapeLang.Proofs.Session.Client

/-!
Safety of everything a client can do, as long as the streams behave and no include names a path with a
NUL character: the machine stays within its bounds at every point of every run, its tape never shrinks,
a run that completes ends just behind the program, and only permitted faults leave a run.
-/

namespace TapeLang

structure Machine.InBounds (machine : Machine) : Prop where
  pointer : 0 ≤ machine.pointer ∧ machine.pointer < machine.tape.size
  cells : ∀ cell ∈ machine.cells, cell.toNat ≤ 255
  ip : 0 ≤ machine.ip ∧ machine.ip ≤ machine.program.size

/-- The streams of an operation behave, and what it adds to the program has no path with a NUL. -/
def Operation.Regular : Operation → Prop
  | .append source file mode =>
    ∀ fragment, parse source file mode = .ok fragment → NulFree fragment
  | .feed line input sink =>
    (∀ fragment, parse (Text.encode line) Session.lineFile .command = .ok fragment →
      NulFree fragment) ∧ input.Regular ∧ (Outlet.tee #[] sink).Steady
  | .run input outlet => input.Regular ∧ outlet.Steady
  | .resetTape => True
  | .emit _ => True
  | .replaceFiles _ => True

theorem NulFree.append {program fragment : List Instruction} (front : NulFree program)
    (back : NulFree fragment) (offset : Int) : NulFree (program ++ relocate offset fragment) := by
  intro text found
  rw [List.mem_append, command_mem_relocate] at found
  rcases found with found | found
  · exact front text found
  · exact back text found

namespace World.Safe

variable {world : World}

theorem in_bounds (safe : world.Safe) : world.machine.InBounds where
  pointer := by
    rcases safe.pointer with ⟨place, stands, inside⟩
    rw [stands]
    omega
  cells cell _ := Nat.le_of_lt_succ cell.toNat_lt
  ip := by
    rcases safe.ip with ⟨index, here, bound⟩
    rw [here, ← Array.length_toList]
    omega

theorem ip_of_halted (safe : world.Safe) (halted : world.machine.halted = true) :
    world.machine.ip = world.machine.program.size := by
  have bound := safe.in_bounds.ip.2
  have reached : (world.machine.program.size : Int) ≤ world.machine.ip := by
    simpa [Machine.halted] using halted
  omega

theorem of_machine {after : World} (safe : world.Safe) (machine : after.machine = world.machine)
    (services : after.host.services = world.host.services) (source : after.source.Regular) :
    after.Safe where
  builtin := services ▸ safe.builtin
  wellFormed := machine ▸ safe.wellFormed
  nulFree := machine ▸ safe.nulFree
  pointer := machine ▸ safe.pointer
  ip := machine ▸ safe.ip
  source := source
  outlet := machine ▸ safe.outlet

theorem append (safe : world.Safe) {source : Bytes} {file : String} {mode : Mode}
    {fragment : List Instruction} (accepted : parse source file mode = .ok fragment)
    (nulFree : NulFree fragment) :
    Safe { world with machine := world.machine.append fragment } :=
  { safe with
    wellFormed := by
      rw [Machine.append_program]
      exact safe.wellFormed.append (.of_parse accepted)
    nulFree := by
      rw [Machine.append_program]
      exact safe.nulFree.append nulFree _
    ip := by
      rcases safe.ip with ⟨index, here, bound⟩
      refine ⟨index, here, ?_⟩
      rw [Machine.append_program, List.length_append]
      omega }

theorem skip_rest (safe : world.Safe) : (Session.skipRest world).Safe :=
  { safe with ip := ⟨world.machine.program.size, rfl, by simp [Session.skipRest]⟩ }

end World.Safe

/-- What every regular operation keeps: the machine is safe whatever the next input will be, and no
outlet is attached between runs. -/
structure Scene.Sound (scene : Scene) : Prop where
  safe : ∀ input : Source, input.Regular → World.Safe { scene.world with source := input }
  idle : scene.world.machine.attached = none

theorem Scene.Fresh.sound {scene : Scene} (fresh : scene.Fresh) (nulFree : NulFree scene.program) :
    scene.Sound := by
  rcases fresh.created with ⟨file, verbose, tapeSize, created⟩
  unfold Machine.create at created
  split at created
  case isTrue => cases created
  case isFalse positive =>
    have machine := (Except.ok.inj created).symm
    constructor
    · intro input regular
      refine ⟨fresh.builtin, fresh.well_formed, nulFree, ⟨0, ?_, ?_⟩, ⟨0, ?_, Nat.zero_le _⟩,
        regular, ?_⟩
      · rw [machine]
        rfl
      · rw [machine]
        dsimp only [Tape.blank]
        omega
      · rw [machine]
        rfl
      · rw [machine]
        simp
    · rw [machine]

theorem FailureReport.release_idle (report : Option FailureReport) {world : World}
    (idle : world.machine.attached = none) : FailureReport.release report world = (report, world) := by
  unfold FailureReport.release
  rw [idle]
  cases world.machine.halted <;> rfl

theorem Operation.launch_safe {operation : Operation} {scene : Scene} {outlet : Outlet}
    {world : World} (sound : scene.Sound) (regular : operation.Regular)
    (launched : operation.launch scene = some (outlet, world)) :
    world.Safe ∧ world.machine.attached = none ∧ outlet.Steady := by
  rcases launch_cases launched with
    ⟨line, input, sink, fragment, rfl, accepted, rfl, rfl⟩ | ⟨input, rfl, rfl⟩
  · rcases regular with ⟨nulFree, quiet, steady⟩
    rw [FailureReport.release_idle]
    · exact ⟨(sound.safe _ quiet).append accepted (nulFree _ accepted), sound.idle, steady⟩
    · exact sound.idle
  · rw [FailureReport.release_idle]
    · exact ⟨sound.safe _ regular.1, sound.idle, regular.2⟩
    · exact sound.idle

def Operation.resume (scene : Scene) (operation : Operation) (report : Option FailureReport)
    (ended : Ended) : Scene :=
  match operation with
  | .feed line _ _ =>
    let session := { scene.session with inputs := scene.session.inputs.push line, report }
    ⟨(session.settle ended).session, (session.settle ended).world⟩
  | _ =>
    match ended.fault with
    | none => ⟨{ scene.session with report }, ended.world⟩
    | some fault => Scene.fail ⟨{ scene.session with report }, ended.world⟩ { fault }

/-- An operation that launches the machine is one run from there, and what follows it. -/
theorem Operation.perform_of_launch {operation : Operation} {scene : Scene} {outlet : Outlet}
    {world : World} (launched : operation.launch scene = some (outlet, world)) :
    ∃ report, ∀ fuel, operation.perform fuel scene =
      (Run.run fuel outlet world).map (operation.resume scene report) := by
  rcases launch_cases launched with
    ⟨line, input, sink, fragment, rfl, accepted, rfl, rfl⟩ | ⟨input, rfl, rfl⟩
  · refine ⟨(FailureReport.release scene.session.report
      { scene.world with source := input, machine := scene.world.machine.append fragment }).1, ?_⟩
    intro fuel
    simp only [perform, Session.feed, accepted, Session.run, Option.map_map]
    rfl
  · refine ⟨(FailureReport.release scene.session.report { scene.world with source := input }).1, ?_⟩
    intro fuel
    simp only [perform, Session.run, Option.map_map]
    rfl

theorem Run.yields_emit_frame (bytes : Bytes) (world : World) :
    Yields (emit bytes) world
      (fun _ after => ∃ history attached, after.machine = { world.machine with history, attached } ∧
        attached.isSome = world.machine.attached.isSome)
      fun _ after => ∃ history attached, after.machine = { world.machine with history, attached } ∧
        attached.isSome = world.machine.attached.isSome := by
  rw [yields_emit]
  refine ⟨fun _ => ⟨_, _, rfl, rfl⟩, ?_⟩
  intro outlet attached
  rw [yields_settle, attached]
  exact ⟨fun _ => ⟨_, _, rfl, rfl⟩, fun _ _ => ⟨_, _, rfl, rfl⟩⟩

/-- An operation that does not run the machine only adds to the program or writes, unless it is the one that
clears the tape. -/
theorem Operation.idle_frame {operation : Operation} {fuel : Nat} {scene after : Scene}
    (idle : operation.launch scene = none) (performed : operation.perform fuel scene = some after) :
    ∃ program tape history attached,
      after.world.machine = { scene.world.machine with program, tape, history, attached } ∧
      (tape = scene.world.machine.tape ∨
        operation = .resetTape ∧ tape = scene.world.machine.tape.clear) ∧
      attached.isSome = scene.world.machine.attached.isSome := by
  cases operation with
  | append source file mode =>
      unfold perform at performed
      cases accepted : parse source file mode with
      | ok fragment =>
          simp only [accepted] at performed
          cases performed
          exact ⟨_, _, _, _, rfl, .inl rfl, rfl⟩
      | error fault =>
          simp only [accepted] at performed
          cases performed
          exact ⟨_, _, _, _, rfl, .inl rfl, rfl⟩
  | feed line input sink =>
      unfold launch at idle
      cases accepted : parse (Text.encode line) Session.lineFile .command with
      | ok fragment =>
          simp only [accepted] at idle
          cases idle
      | error fault =>
          simp only [perform, Session.feed, accepted] at performed
          cases performed
          exact ⟨_, _, _, _, rfl, .inl rfl, rfl⟩
  | run input outlet => cases idle
  | resetTape =>
      cases performed
      exact ⟨_, _, _, _, rfl, .inr ⟨rfl, rfl⟩, rfl⟩
  | emit bytes =>
      have emits := Run.yields_emit_frame bytes scene.world
      unfold perform at performed
      cases result : Run.emit bytes scene.world with
      | ok value world =>
          simp only [result] at performed
          cases performed
          obtain ⟨history, attached, machine, same⟩ := emits.of_ok result
          exact ⟨_, _, history, attached, machine, .inl rfl, same⟩
      | error fault world =>
          simp only [result] at performed
          cases performed
          obtain ⟨history, attached, machine, same⟩ := emits.of_error result
          exact ⟨_, _, history, attached, machine, .inl rfl, same⟩
  | replaceFiles files =>
      cases performed
      exact ⟨_, _, _, _, rfl, .inl rfl, rfl⟩

theorem Scene.Sound.of_machine {scene after : Scene} (sound : scene.Sound)
    (machine : after.world.machine = scene.world.machine)
    (services : after.world.host.services = scene.world.host.services) : after.Sound := by
  constructor
  · intro input regular
    exact (sound.safe input regular).of_machine machine services regular
  · exact machine ▸ sound.idle

theorem Session.settle_machine (session : Session) {ended : Ended}
    (idle : ended.world.machine.attached = none) :
    (session.settle ended).world.machine = ended.world.machine ∨
      (session.settle ended).world.machine = (skipRest ended.world).machine := by
  have kept : (FailureReport.keepAttached ended.world).machine = ended.world.machine := by
    unfold FailureReport.keepAttached
    rw [idle, Option.map_none, ← idle]
  unfold Session.settle
  cases ended.fault with
  | none => exact .inl rfl
  | some fault =>
      dsimp only
      cases FailureReport.isWrapped ended.verdict with
      | false =>
          cases fault.ofProgram with
          | false => exact .inl rfl
          | true => exact .inr rfl
      | true =>
          cases fault.ofProgram with
          | false => exact .inl kept
          | true =>
              right
              change (skipRest (FailureReport.keepAttached ended.world)).machine = _
              unfold skipRest
              rw [kept]

theorem World.Safe.sound {world : World} (safe : world.Safe)
    (idle : world.machine.attached = none) (session : Session) : Scene.Sound ⟨session, world⟩ :=
  ⟨fun _ regular => safe.of_machine rfl rfl regular, idle⟩

theorem Operation.resume_sound (scene : Scene) (operation : Operation)
    (report : Option FailureReport) {ended : Ended} (safe : ended.world.Safe)
    (idle : ended.world.machine.attached = none) :
    (operation.resume scene report ended).Sound := by
  cases operation with
  | feed line input sink =>
      let session := { scene.session with inputs := scene.session.inputs.push line, report }
      have services := (session.follows_settle ended).services
      rcases session.settle_machine idle with same | skipped
      · exact (safe.sound idle session).of_machine same services
      · exact (safe.skip_rest.sound idle session).of_machine skipped services
  | _ =>
      unfold resume
      cases ended.fault with
      | none => exact safe.sound idle _
      | some fault => exact (safe.sound idle scene.session).of_machine rfl rfl

theorem Operation.sound_perform {operation : Operation} {fuel : Nat} {scene after : Scene}
    (sound : scene.Sound) (regular : operation.Regular)
    (performed : operation.perform fuel scene = some after) : after.Sound := by
  cases launched : operation.launch scene with
  | some start =>
      obtain ⟨safe, idle, steady⟩ := launch_safe sound regular launched
      obtain ⟨report, runs⟩ := perform_of_launch launched
      rw [runs] at performed
      obtain ⟨ended, ran, rfl⟩ := Option.map_eq_some_iff.mp performed
      obtain ⟨endSafe, detached, -⟩ := Run.run_safe safe idle steady ran
      exact resume_sound scene operation report endSafe detached
  | none =>
      cases operation with
      | append source file mode =>
          unfold perform at performed
          cases accepted : parse source file mode with
          | ok fragment =>
              simp only [accepted] at performed
              cases performed
              constructor
              · intro input quiet
                exact (sound.safe input quiet).append accepted (regular fragment accepted)
              · exact sound.idle
          | error fault =>
              simp only [accepted] at performed
              cases performed
              exact sound.of_machine rfl rfl
      | feed line input sink =>
          unfold launch at launched
          cases accepted : parse (Text.encode line) Session.lineFile .command with
          | ok fragment =>
              simp only [accepted] at launched
              cases launched
          | error fault =>
              simp only [perform, Session.feed, accepted] at performed
              cases performed
              exact sound.of_machine rfl rfl
      | run input outlet => cases launched
      | resetTape =>
          cases performed
          constructor
          · intro input quiet
            exact (sound.safe input quiet).withTape (Tape.size_clear _)
          · exact sound.idle
      | emit bytes =>
          have kept : Run.emit bytes scene.world = .ok () (scene.world.kept bytes) := by
            rw [Run.emit_eq, sound.idle]
          simp only [perform, kept] at performed
          cases performed
          constructor
          · intro input quiet
            exact (sound.safe input quiet).kept bytes
          · exact sound.idle
      | replaceFiles files =>
          cases performed
          exact sound.of_machine rfl rfl

theorem Reaches.sound {start scene : Scene} (sound : start.Sound)
    (reached : Reaches Operation.Regular start scene) : scene.Sound := by
  induction reached with
  | refl => exact sound
  | step _ regular performed ih => exact Operation.sound_perform ih regular performed

/-- A machine that is used as it should be stays within its bounds at every point of every run and
between runs, its tape never shrinks, a run that completes ends just behind the program, and the faults
that leave a run are the permitted ones, none of which is internal. -/
theorem reachable_runs_safe {start scene : Scene} (fresh : start.Fresh)
    (nulFree : NulFree start.program) (reached : Reaches Operation.Regular start scene) :
    scene.world.machine.InBounds ∧
      (∀ (operation : Operation) (fuel : Nat) (after : Scene), operation.Regular →
        operation.perform fuel scene = some after →
          after.world.machine.InBounds ∧
            scene.world.machine.tape.size ≤ after.world.machine.tape.size) ∧
      ∀ (operation : Operation) (outlet : Outlet) (world : World), operation.Regular →
        operation.launch scene = some (outlet, world) →
          (∀ fuel, (Run.point outlet world fuel).machine.InBounds) ∧
          (∀ fuel more, scene.world.machine.tape.size ≤
              (Run.point outlet world fuel).machine.tape.size ∧
            (Run.point outlet world fuel).machine.tape.size ≤
              (Run.point outlet world (fuel + more)).machine.tape.size) ∧
          ∀ (fuel : Nat) (ended : Ended), Run.run fuel outlet world = some ended →
            ended.world.machine.InBounds ∧
            (Run.point outlet world fuel).machine.tape.size ≤ ended.world.machine.tape.size ∧
            (ended.fault = none → ended.world.machine.ip = ended.world.machine.program.size) ∧
            ∀ fault, ended.fault = some fault → Permitted world.host fault ∧
              ∀ cause, fault = .runtime cause → cause.rule ≠ some "internal" := by
  have sound := reached.sound (fresh.sound nulFree)
  have builtin := (reached.follows fresh.builtin).builtin fresh.builtin
  refine ⟨(sound.safe (.ofBytes []) ?_).in_bounds, ?_, ?_⟩
  · exact ⟨by simp, .nothing⟩
  · intro operation fuel after regular performed
    have next := Operation.sound_perform sound regular performed
    refine ⟨(next.safe (.ofBytes []) ?_).in_bounds, ?_⟩
    · exact ⟨by simp, .nothing⟩
    · exact (Operation.follows_perform builtin performed).size
  · intro operation outlet world regular launched
    obtain ⟨safe, idle, steady⟩ := Operation.launch_safe sound regular launched
    have started := Operation.follows_launch launched
    refine ⟨fun fuel => (Run.point_safe safe steady fuel).in_bounds, ?_, ?_⟩
    · intro fuel more
      have earlier := started.trans (Run.point_later outlet safe.builtin fuel).follows
      exact ⟨earlier.size, (Run.point_add_later outlet safe.builtin fuel more).size⟩
    · intro fuel ended ran
      obtain ⟨endSafe, -, completed, permitted⟩ := Run.run_safe safe idle steady ran
      refine ⟨endSafe.in_bounds, (Run.run_after_point safe.builtin ran).size,
        fun done => endSafe.ip_of_halted (completed done), ?_⟩
      intro fault raised
      constructor
      · exact permitted fault raised
      · intro cause runtime
        rw [runtime] at raised
        exact (permitted _ raised).rule_ne_internal safe.builtin

/-- A line that grows the tape, includes a file and then fails for want of input. -/
theorem starved_line_runs_safe :
    ∃ start scene : Scene, start.Fresh ∧ NulFree start.program ∧
      Reaches Operation.Regular start scene ∧ scene.world.machine.tape.size = 7 ∧
      scene.program = [.counted .increment 1, .counted .shiftRight 6, .command "include a", .input,
        .loopStart (some 7), .counted .decrement 1, .loopEnd 4] ∧
      scene.world.machine.InBounds := by
  let line : Operation := .feed ">>>>>>#include a;," (.ofBytes []) none
  have fresh : includedLoop.scene.Fresh := includedLoop.fresh rfl (.inr ⟨[43], "", .normal, rfl⟩)
  have nulFree : NulFree includedLoop.scene.program := by
    intro text found
    change Instruction.command text ∈ [.counted .increment 1] at found
    simp at found
  have regular : line.Regular := by
    refine ⟨?_, ⟨by simp, .nothing⟩, trivial⟩
    intro fragment accepted
    have parsed : parse (Text.encode ">>>>>>#include a;,") Session.lineFile .command =
        .ok [.counted .shiftRight 6, .command "include a", .input] := by
      apply parse_eq_ok_of_some
      decide +kernel
    cases parsed.symm.trans accepted
    intro text found _ argument given
    have arguments : commandArguments "include a" = ["a"] := by decide +kernel
    simp only [List.mem_cons, reduceCtorEq, Instruction.command.injEq, List.not_mem_nil, or_false,
      false_or] at found
    rw [found, arguments, List.mem_singleton] at given
    rw [given]
    decide
  have fed : (line.perform 20 includedLoop.scene).map
      (fun scene => (scene.world.machine.tape.size, scene.program)) =
        some (7, [.counted .increment 1, .counted .shiftRight 6, .command "include a", .input,
          .loopStart (some 7), .counted .decrement 1, .loopEnd 4]) := by
    decide +kernel
  obtain ⟨scene, performed, shown⟩ := Option.map_eq_some_iff.mp fed
  have reached : Reaches Operation.Regular includedLoop.scene scene := .step .refl regular performed
  exact ⟨_, scene, fresh, nulFree, reached, congrArg Prod.fst shown, congrArg Prod.snd shown,
    (reachable_runs_safe fresh nulFree reached).1⟩

end TapeLang
