import TapeLang.Machine.Traceback
import TapeLang.Proofs.Machine.Failure
import TapeLang.Proofs.Session.Isolation

/-!
Failures in sessions. Whatever a client has done before, a run that fails on an outlet that does not fail
leaves the machine as it was before the instruction that failed, and both tracebacks of a runtime fault
show its place, the instruction there and the step, also after the session has moved on behind the line.
-/

namespace TapeLang

theorem Instruction.text_not_empty {instruction : Instruction}
    (known : ∀ text, instruction ≠ .foreign text) : instruction.text.isEmpty = false := by
  rw [Bool.eq_false_iff, ne_eq, String.isEmpty_iff]
  cases instruction with
  | counted kind count => cases kind <;> simp [text, Counted.sign]
  | loopStart target => cases target <;> simp [text]
  | foreign text => exact (known text rfl).elim
  | _ => simp [text]

def Machine.instruction? (machine : Machine) (place : Int) : Option Instruction :=
  if 0 ≤ place then machine.program.toList[place.toNat]? else none

/-- Both tracebacks of the fault show the place, the text of the instruction there, if there is one, and
the step. -/
structure Traceback.Shows (machine : Machine) (fault : RuntimeFault) (place step : Int) : Prop where
  text : ∀ verbose, ∃ rest, Traceback.text machine fault verbose = "\n".intercalate (
    ["Traceback (most recent call last):",
      "  File \"" ++ machine.file ++ "\", instruction " ++ Text.decimal place]
      ++ (machine.instruction? place).toList.map (fun instruction => "    " ++ instruction.text)
      ++ ("    State log index: " ++ Text.decimal step ++ "  State id: " ++ stateId step) :: rest)
  json : ∃ error rest, Traceback.json machine fault =
      (Json.obj (("error", .obj error) :: rest)).render 0 ∧
    Json.lookup "instruction_pointer" error = some (.int place) ∧
    Json.lookup "instruction" error =
      some (Traceback.optional (fun instruction => .str instruction.text) (machine.instruction? place)) ∧
    Json.lookup "failing_step_index" error = some (.int step)

namespace Traceback

theorem failing_eq {machine : Machine} {fault : RuntimeFault} {place : Int} (ip : fault.ip = some place) :
    failing? machine fault = (machine.instruction? place).map (·.text) := by
  unfold failing? Machine.instruction?
  rw [ip]
  cases place with
  | ofNat index => simp
  | negSucc index => simp

theorem place_eq {machine : Machine} {fault : RuntimeFault} {place : Int}
    (well : WellFormed machine.program.toList) (ip : fault.ip = some place) :
    Traceback.place machine fault =
      ("  File \"" ++ machine.file ++ "\", instruction " ++ Text.decimal place) ::
        (machine.instruction? place).toList.map fun instruction => "    " ++ instruction.text := by
  unfold Traceback.place
  rw [ip, failing_eq ip]
  cases found : machine.instruction? place with
  | none => rfl
  | some instruction =>
      have known : ∀ text, instruction ≠ .foreign text := by
        rintro text rfl
        unfold Machine.instruction? at found
        split at found
        · exact well.known _ text found
        · cases found
      simp [Instruction.text_not_empty known]

theorem shows {machine : Machine} {fault : RuntimeFault} {place : Int} {entry : LogEntry UInt8}
    (well : WellFormed machine.program.toList) (last : machine.log.last? = some entry)
    (ip : fault.ip = some place) (step : fault.step = some entry.step) :
    Shows machine fault place entry.step where
  text verbose := by
    have regroup (heading places logged data cells message : List String) :
        heading ++ places ++ logged ++ data ++ cells ++ message =
          heading ++ (places ++ (logged ++ (data ++ cells ++ message))) := by
      simp
    unfold Traceback.text logLine
    rw [place_eq well ip, last, regroup]
    exact ⟨_, rfl⟩
  json := by
    refine ⟨_, _, rfl, ?_, ?_, ?_⟩
    · simp [Json.lookup, ip, optional]
    · have shown : optional .str (failing? machine fault) =
          optional (fun instruction => .str instruction.text) (machine.instruction? place) := by
        rw [failing_eq ip]
        cases machine.instruction? place <;> rfl
      simp [Json.lookup, shown]
    · simp [Json.lookup, step, optional]

end Traceback

theorem Session.settle_frame (session : Session) (ended : Ended) :
    ∃ ip attached, (session.settle ended).world.machine = { ended.world.machine with ip, attached } := by
  unfold settle
  cases ended.fault with
  | none => exact ⟨_, _, rfl⟩
  | some fault =>
      dsimp only
      cases FailureReport.isWrapped ended.verdict <;> cases fault.ofProgram <;> exact ⟨_, _, rfl⟩

theorem FailureReport.of_ended_fault (ended : Ended) (fault : Fault) :
    (FailureReport.ofEnded ended fault).fault = fault := by
  unfold ofEnded
  split
  · rfl
  · split <;> rfl

theorem Session.settle_report (session : Session) {ended : Ended} {fault : Fault}
    (failed : ended.fault = some fault) :
    (session.settle ended).session.report.map (·.fault) = some fault := by
  unfold settle
  rw [failed]
  exact congrArg some (FailureReport.of_ended_fault ended fault)

/-- A machine stands in its program or just behind it, and its log keeps entries. -/
structure World.StandsWithLog (world : World) : Prop extends world.StandsBehind [] where
  limit : world.machine.log.limit = Machine.logLimit

theorem Run.limit_run {fuel : Nat} {outlet : Outlet} {world : World} {ended : Ended}
    (builtin : world.host.services.Builtin) (ran : run fuel outlet world = some ended) :
    ended.world.machine.log.limit = world.machine.log.limit := by
  cases halted : world.machine.halted with
  | true =>
      rw [run_of_halted fuel outlet halted] at ran
      cases ran
      rfl
  | false =>
      obtain ⟨failure, executed, stops, rfl⟩ := ending_of_builtin builtin ran halted
      have begins : (world.attach outlet).machine.log.limit = world.machine.log.limit := rfl
      obtain ⟨attached, machine⟩ := ending_machine outlet failure executed
      rw [machine]
      exact (primitives_keep_limit _).stopped begins stops

namespace World.StandsWithLog

variable {world : World}

theorem append (standing : world.StandsWithLog) {source : Bytes} {file : String} {mode : Mode}
    {fragment : List Instruction} (accepted : parse source file mode = .ok fragment) :
    StandsWithLog { world with machine := world.machine.append fragment } where
  builtin := standing.builtin
  wellFormed := by
    rw [Machine.append_program]
    exact standing.wellFormed.append (.of_parse accepted)
  leads := List.nil_prefix
  ip := by
    obtain ⟨index, here, behind, bound⟩ := standing.ip
    refine ⟨index, here, behind, ?_⟩
    rw [Machine.append_program, List.length_append]
    omega
  limit := standing.limit

theorem release (standing : world.StandsWithLog) (report : Option FailureReport) :
    (FailureReport.release report world).2.StandsWithLog := by
  unfold FailureReport.release
  split
  · split <;> exact { standing with }
  · exact standing

theorem run (standing : world.StandsWithLog) {fuel : Nat} {outlet : Outlet} {ended : Ended}
    (ran : Run.run fuel outlet world = some ended) : ended.world.StandsWithLog :=
  { (standing.toStandsBehind.run .nil ran).1 with
    limit := (Run.limit_run standing.builtin ran).trans standing.limit }

theorem settle {ended : Ended} (standing : ended.world.StandsWithLog) (session : Session) :
    (session.settle ended).world.StandsWithLog := by
  obtain ⟨program, services, ip⟩ := session.settle_keeps ended
  obtain ⟨_, _, machine⟩ := session.settle_frame ended
  constructor
  · refine ⟨services ▸ standing.builtin, program ▸ standing.wellFormed, List.nil_prefix, ?_⟩
    rw [ip, program]
    split
    case isTrue => exact ⟨ended.world.machine.program.size, rfl, Nat.zero_le _, by simp⟩
    case isFalse => exact standing.ip
  · rw [machine]
    exact standing.limit

end World.StandsWithLog

theorem Scene.Fresh.stands_with_log {scene : Scene} (fresh : scene.Fresh) : scene.world.StandsWithLog := by
  obtain ⟨file, verbose, tapeSize, created⟩ := fresh.created
  unfold Machine.create at created
  split at created
  case isTrue => cases created
  case isFalse =>
    have machine := (Except.ok.inj created).symm
    constructor
    · refine ⟨fresh.builtin, fresh.well_formed, List.nil_prefix, 0, ?_, Nat.le_refl 0, Nat.zero_le _⟩
      rw [machine]
      rfl
    · rw [machine]
      rfl

namespace Operation

variable {operation : Operation} {scene after : Scene} {outlet : Outlet} {world : World} {fuel : Nat}

theorem stands_with_log_launch (standing : scene.world.StandsWithLog)
    (launched : operation.launch scene = some (outlet, world)) : world.StandsWithLog := by
  rcases launch_cases launched with
    ⟨line, input, sink, fragment, rfl, accepted, rfl, rfl⟩ | ⟨input, rfl, rfl⟩
  · have supplied : World.StandsWithLog { scene.world with source := input } := { standing with }
    exact (supplied.append accepted).release _
  · have supplied : World.StandsWithLog { scene.world with source := input } := { standing with }
    exact supplied.release _

theorem stands_with_log_resume (scene : Scene) (operation : Operation) (report : Option FailureReport)
    {ended : Ended} (standing : ended.world.StandsWithLog) :
    (operation.resume scene report ended).world.StandsWithLog := by
  cases operation with
  | feed line input sink => exact standing.settle _
  | _ =>
      unfold resume
      cases ended.fault with
      | none => exact standing
      | some fault => exact { standing with }

/-- Every operation leaves the machine in its program or just behind it, whatever the streams did. -/
theorem stands_with_log_perform (standing : scene.world.StandsWithLog)
    (performed : operation.perform fuel scene = some after) : after.world.StandsWithLog := by
  cases launched : operation.launch scene with
  | some start =>
      obtain ⟨report, runs⟩ := perform_of_launch launched
      rw [runs] at performed
      obtain ⟨ended, ran, rfl⟩ := Option.map_eq_some_iff.mp performed
      exact stands_with_log_resume scene operation report ((stands_with_log_launch standing launched).run ran)
  | none =>
      cases operation with
      | append source file mode =>
          unfold perform at performed
          cases accepted : parse source file mode with
          | ok fragment =>
              simp only [accepted] at performed
              cases performed
              exact standing.append accepted
          | error fault =>
              simp only [accepted] at performed
              cases performed
              exact { standing with }
      | feed line input sink =>
          unfold launch at launched
          cases accepted : parse (Text.encode line) Session.lineFile .command with
          | ok fragment =>
              simp only [accepted] at launched
              cases launched
          | error fault =>
              simp only [perform, Session.feed, accepted] at performed
              cases performed
              exact { standing with }
      | run input outlet => cases launched
      | resetTape =>
          cases performed
          exact { standing with }
      | emit bytes =>
          have keeps : Run.Keeps World.StandsWithLog (Run.emit bytes) :=
            Run.keeps_emit (fun _ _ still => { still with }) (fun _ _ still => { still with }) bytes
          unfold perform at performed
          cases result : Run.emit bytes scene.world with
          | ok value world =>
              simp only [result] at performed
              cases performed
              exact keeps.of_ok standing result
          | error fault world =>
              simp only [result] at performed
              cases performed
              exact { keeps.of_error standing result with }
      | replaceFiles files =>
          cases performed
          exact { standing with }

theorem resume_frame (scene : Scene) (operation : Operation) (report : Option FailureReport)
    (ended : Ended) :
    ∃ ip attached, (operation.resume scene report ended).world.machine =
      { ended.world.machine with ip, attached } := by
  cases operation with
  | feed line input sink => exact Session.settle_frame _ ended
  | _ =>
      unfold resume
      cases ended.fault <;> exact ⟨_, _, rfl⟩

theorem resume_failed (scene : Scene) (operation : Operation) (report : Option FailureReport)
    {ended : Ended} {fault : Fault} (failed : ended.fault = some fault) :
    (operation.resume scene report ended).session.report.map (·.fault) = some fault ∧
      ∃ ip attached, (operation.resume scene report ended).world.machine =
        { ended.world.machine with ip, attached } := by
  refine ⟨?_, resume_frame scene operation report ended⟩
  cases operation with
  | feed line input sink => exact Session.settle_report _ failed
  | _ =>
      unfold resume
      rw [failed]
      rfl

end Operation

theorem Reaches.stands_with_log {allowed : Operation → Prop} {start scene : Scene}
    (standing : start.world.StandsWithLog)
    (reached : Reaches allowed start scene) : scene.world.StandsWithLog := by
  induction reached with
  | refl => exact standing
  | step _ _ performed ih => exact Operation.stands_with_log_perform ih performed

/-- Whatever a client has done, a run that fails on an outlet that does not fail comes to an instruction
that fails, and leaves the machine as it was before it, but for the log and the skipped paths. A runtime
fault names the place of that instruction, unless the source raised it with a place of its own, and the
step of the latest log entry, which stands at that instruction. Both tracebacks show this, at once and
after the operation. -/
theorem failing_instruction_located_without_effect {start scene : Scene} {operation : Operation}
    {outlet : Outlet} {world : World} {fuel : Nat} {ended : Ended} {fault : Fault} (fresh : start.Fresh)
    (reached : Reaches (fun _ => True) start scene)
    (launched : operation.launch scene = some (outlet, world)) (steady : outlet.Steady)
    (ran : Run.run fuel outlet world = some ended) (failed : ended.fault = some fault) :
    ∃ count before index instruction after,
      Run.steps count (world.attach outlet) = .ok false before ∧
      ended.Fails before index instruction fault ∧
      operation.perform fuel scene = some after ∧
      after.session.report.map (·.fault) = some fault ∧
      ∀ runtime, fault = .runtime runtime →
        ∃ place entry, ended.Locates before index instruction runtime place entry ∧
          Traceback.Shows ended.world.machine runtime place entry.step ∧
          Traceback.Shows after.world.machine runtime place entry.step := by
  have standing := Operation.stands_with_log_launch (reached.stands_with_log fresh.stands_with_log) launched
  have kept : 0 < world.machine.log.limit := by
    rw [standing.limit]
    decide
  obtain ⟨count, before, index, instruction, led, fails, locates⟩ :=
    Run.run_fails standing.toStandsBehind steady kept ran failed
  obtain ⟨report, runs⟩ := Operation.perform_of_launch launched
  obtain ⟨filed, ip, attached, machine⟩ := Operation.resume_failed scene operation report failed
  refine ⟨count, before, index, instruction, operation.resume scene report ended, led, fails, ?_, filed, ?_⟩
  · rw [runs, ran]
    rfl
  · intro runtime same
    obtain ⟨place, entry, located⟩ := locates runtime same
    have well := (standing.run ran).wellFormed
    refine ⟨place, entry, located,
      Traceback.shows well located.latest.last located.ip located.step, ?_⟩
    rw [machine]
    exact Traceback.shows well located.latest.last located.ip located.step

def singleStep (instruction : Instruction) : Setup where
  program := [instruction]

def lostFiles : Setup where
  program := [.counted .increment 1]
  files := .vacant

/-- A line that goes on with the program, grows the tape, skips an include and then fails for want of
input. -/
theorem starved_line_located_without_effect :
    ∃ (start scene after : Scene) (outlet : Outlet) (world : World) (ended : Ended) (runtime : RuntimeFault),
      start.Fresh ∧ Reaches (fun _ => True) start scene ∧
      (Operation.feed ">>>>>>#include a;,." (.ofBytes []) none).launch scene = some (outlet, world) ∧
      outlet.Steady ∧ Run.run 20 outlet world = some ended ∧ ended.fault = some (.runtime runtime) ∧
      runtime = { cause := .inputEnded, ip := some 3, rule := some "input", step := some 5 } ∧
      (Operation.feed ">>>>>>#include a;,." (.ofBytes []) none).perform 20 scene = some after ∧
      ended.world.machine.ip = 3 ∧ ended.world.machine.skipped = #["a"] ∧
      ended.world.machine.tape.size = 7 ∧ after.world.machine.ip = 5 ∧
      Traceback.Shows after.world.machine runtime 3 5 := by
  let runtime : RuntimeFault :=
    { cause := .inputEnded, ip := some 3, rule := some "input", step := some 5 }
  have fresh : (singleStep (.counted .increment 1)).scene.Fresh :=
    Setup.fresh _ rfl (.inr ⟨[43], "", .normal, rfl⟩)
  have replaced : (Operation.replaceFiles lostFiles.files).perform 0
      (singleStep (.counted .increment 1)).scene = some lostFiles.scene := rfl
  have reached : Reaches (fun _ => True) (singleStep (.counted .increment 1)).scene lostFiles.scene :=
    .step .refl trivial replaced
  have shown : ((Operation.feed ">>>>>>#include a;,." (.ofBytes []) none).launch lostFiles.scene).bind
      (fun launched => (Run.run 20 launched.1 launched.2).map fun ended =>
        (ended.fault, ended.world.machine.ip, ended.world.machine.skipped,
          ended.world.machine.tape.size)) =
      some (some (.runtime runtime), 3, #["a"], 7) := by
    decide +kernel
  have moved : ((Operation.feed ">>>>>>#include a;,." (.ofBytes []) none).perform 20 lostFiles.scene).map
      (·.world.machine.ip) = some 5 := by
    decide +kernel
  obtain ⟨⟨outlet, world⟩, launched, shown⟩ := Option.bind_eq_some_iff.mp shown
  obtain ⟨ended, ran, seen⟩ := Option.map_eq_some_iff.mp shown
  simp only [Prod.mk.injEq] at seen
  obtain ⟨failed, ip, skipped, size⟩ := seen
  have steady : outlet.Steady := by
    rcases Operation.launch_cases launched with ⟨_, _, _, _, same, -, rfl, -⟩ | ⟨_, same, -⟩
    · cases same
      trivial
    · cases same
  obtain ⟨_, _, _, _, after, -, -, feeds, -, locates⟩ :=
    failing_instruction_located_without_effect fresh reached launched steady ran failed
  obtain ⟨place, entry, located, -, shows⟩ := locates runtime rfl
  cases located.ip
  have step : entry.step = 5 := Option.some.inj located.step.symm
  rw [step] at shows
  rw [feeds] at moved
  exact ⟨_, lostFiles.scene, after, outlet, world, ended, runtime, fresh, reached, launched, steady, ran,
    failed, rfl, feeds, ip, skipped, size, Option.some.inj moved, shows⟩

/-- A source that raises a runtime fault with a place of its own: the fault names another place than that of
the instruction that failed, where the machine stands and the latest log entry is. -/
theorem source_names_another_place :
    ∃ (start : Scene) (outlet : Outlet) (world : World) (ended : Ended) (runtime : RuntimeFault),
      start.Fresh ∧
      (Operation.run (.queue [] (.failure (.runtime { cause := .described "busy", ip := some 7 })))
        (.direct {})).launch start = some (outlet, world) ∧
      outlet.Steady ∧ Run.run 9 outlet world = some ended ∧ ended.fault = some (.runtime runtime) ∧
      runtime.ip = some 7 ∧ ended.world.machine.ip = 0 ∧
      (ended.world.machine.log.last?.bind (·.ip)) = some 0 := by
  let source : Source := .queue [] (.failure (.runtime { cause := .described "busy", ip := some 7 }))
  let runtime : RuntimeFault := { cause := .described "busy", ip := some 7, step := some 1 }
  have fresh : (singleStep .input).scene.Fresh := Setup.fresh _ rfl (.inr ⟨[44], "", .normal, rfl⟩)
  have shown : (Run.run 9 (.direct {}) { (singleStep .input).world with source }).map
      (fun ended => (ended.fault, ended.world.machine.ip, ended.world.machine.log.last?.bind (·.ip))) =
      some (some (.runtime runtime), 0, some 0) := by
    decide +kernel
  obtain ⟨ended, ran, seen⟩ := Option.map_eq_some_iff.mp shown
  simp only [Prod.mk.injEq] at seen
  exact ⟨_, .direct {}, { (singleStep .input).world with source }, ended, runtime, fresh, rfl,
    ⟨fun _ => rfl, fun _ => rfl⟩, ran, seen.1, rfl, seen.2⟩

end TapeLang
