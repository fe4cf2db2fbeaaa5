import TapeLang.Proofs.Machine.Upkeep
import TapeLang.Proofs.Session.Client

/-!
Where the bytes of a session are kept. What is emitted while a line is fed enters the history of the
machine and the tee of the line alike, before it is passed on; and the session takes over what the tee has
captured, however the line ends. So the history is what it was before the session with the output of the
session behind it. This holds of every machine, with any commands and listeners and any streams.
-/

namespace TapeLang

/-- A tee is attached, and the history has grown by what the tee has captured. -/
def World.Accounts (earlier : Bytes) (world : World) : Prop :=
  ∃ captured sink, world.machine.attached = some (.tee captured sink) ∧
    world.machine.history.toList = earlier ++ captured.toList

namespace World.Accounts

variable {earlier : Bytes} {world : World}

theorem attach (world : World) (sink : Option Channel) :
    (world.attach (.tee #[] sink)).Accounts world.machine.history.toList :=
  ⟨#[], sink, rfl, (List.append_nil _).symm⟩

theorem emit (accounts : world.Accounts earlier) (bytes : Bytes) :
    Run.Yields (Run.emit bytes) world (fun _ after => after.Accounts earlier)
      fun _ after => after.Accounts earlier := by
  obtain ⟨captured, sink, attached, history⟩ := accounts
  have written (outlet : Outlet) (same : world.machine.attached = some outlet) :
      ((world.kept bytes).called (outlet.write bytes)).Accounts earlier := by
    cases attached.symm.trans same
    obtain ⟨after, stream⟩ := Outlet.tee_write captured sink bytes
    refine ⟨captured ++ bytes.toArray, after, congrArg some stream, ?_⟩
    change (world.machine.history ++ bytes.toArray).toList = _
    rw [Array.toList_append, Array.toList_append, history, List.append_assoc]
  rw [Run.yields_emit]
  refine ⟨fun idle => by simp [attached] at idle, ?_⟩
  intro outlet same
  rw [Run.yields_settle]
  exact ⟨fun _ => written outlet same, fun _ _ => written outlet same⟩

theorem flush (accounts : world.Accounts earlier) :
    Run.Yields Run.flush world (fun _ after => after.Accounts earlier)
      fun _ after => after.Accounts earlier := by
  obtain ⟨captured, sink, attached, history⟩ := accounts
  have flushed (outlet : Outlet) (same : world.machine.attached = some outlet) :
      (world.called outlet.flush).Accounts earlier := by
    cases attached.symm.trans same
    obtain ⟨after, stream⟩ := Outlet.tee_flush captured sink
    exact ⟨captured, after, congrArg some stream, history⟩
  rw [Run.yields_flush]
  refine ⟨fun idle => by simp [attached] at idle, ?_⟩
  intro outlet same
  rw [Run.yields_settle]
  exact ⟨fun _ => flushed outlet same, fun _ _ => flushed outlet same⟩

theorem primitives_keep (earlier : Bytes) : Run.PrimitivesKeep (World.Accounts earlier) where
  machine := by
    rintro world machine ⟨captured, sink, attached, kept⟩ same
    exact ⟨captured, sink, same.attached.trans attached,
      (congrArg Array.toList same.history).trans kept⟩
  remark _ _ accounts := accounts
  register accounts _ := accounts
  emit bytes _ accounts := accounts.emit bytes
  read := by
    intro world accounts
    rw [Run.yields_read_byte]
    apply accounts.flush.mono ?_ fun _ _ still => still
    intro _ flushed still
    exact ⟨fun _ _ => still, fun _ _ => still⟩

theorem history_eq (accounts : world.Accounts earlier) (outlet : Outlet) :
    world.machine.history.toList = earlier ++ (world.machine.attached.getD outlet).captured := by
  obtain ⟨captured, sink, attached, history⟩ := accounts
  rw [attached, history]
  rfl

theorem conclusion (accounts : world.Accounts earlier) (outlet : Outlet) (verdict : Option Fault) :
    (Run.conclusion outlet verdict world).world.machine.history.toList =
      earlier ++ (Run.conclusion outlet verdict world).outlet.captured := by
  unfold Run.conclusion
  rw [Run.conclude, Run.bind_eq]
  have flushes := accounts.flush
  cases flushed : Run.flush world with
  | ok value after => exact (flushes.of_ok flushed).history_eq outlet
  | error fault after => exact (flushes.of_error flushed).history_eq outlet

end World.Accounts

/-- During a run through a tee the history grows by what the tee has captured at the end. -/
theorem Run.run_captures {fuel : Nat} {sink : Option Channel} {world : World} {ended : Ended}
    (ran : run fuel (.tee #[] sink) world = some ended) :
    ended.world.machine.history.toList = world.machine.history.toList ++ ended.outlet.captured := by
  cases halted : world.machine.halted with
  | true =>
      rw [run_of_halted fuel _ halted] at ran
      cases ran
      exact (List.append_nil _).symm
  | false =>
      have primitives := World.Accounts.primitives_keep world.machine.history.toList
      have accounts := World.Accounts.attach world sink
      cases course_of_run halted ran with
      | refused starts => exact ((primitives.notify _ _ _).of_error accounts starts).history_eq _
      | @concluded arguments started executed failure starts stops =>
          have started := (primitives.notify _ _ _).of_ok accounts starts
          exact (primitives.judged failure (primitives.stopped started stops)).conclusion _ _

theorem FailureReport.release_history (report : Option FailureReport) (world : World) :
    (release report world).2.machine.history = world.machine.history := by
  unfold release
  split
  · split <;> rfl
  · rfl

theorem Session.settle_output (session : Session) (ended : Ended) :
    (session.settle ended).world.machine.history = ended.world.machine.history ∧
      (session.settle ended).session.output.toList =
        session.output.toList ++ ended.outlet.captured ∧
      ∀ bytes, (session.settle ended).outcome = .ok bytes → bytes = ended.outlet.captured := by
  unfold settle
  cases ended.fault with
  | none =>
      refine ⟨rfl, Array.toList_append, ?_⟩
      intro bytes returned
      exact (Except.ok.inj returned).symm
  | some fault =>
      refine ⟨?_, Array.toList_append, nofun⟩
      dsimp only [file]
      cases FailureReport.isWrapped ended.verdict <;> cases fault.ofProgram <;> rfl

/-- A line makes the history and the output grow by the same bytes, and returns them if it returns. -/
theorem Session.feed_output {fuel : Nat} {session : Session} {line : String} {sink : Option Channel}
    {world : World} {fed : Fed} (feeds : session.feed fuel line sink world = some fed) :
    ∃ written, fed.world.machine.history.toList = world.machine.history.toList ++ written ∧
      fed.session.output.toList = session.output.toList ++ written ∧
      ∀ bytes, fed.outcome = .ok bytes → bytes = written := by
  unfold feed at feeds
  cases accepted : parse (Text.encode line) lineFile .command with
  | error fault =>
      simp only [accepted] at feeds
      cases feeds
      exact ⟨[], (List.append_nil _).symm, (List.append_nil _).symm, nofun⟩
  | ok fragment =>
      simp only [accepted, Session.run, Option.map_map] at feeds
      obtain ⟨ended, ran, rfl⟩ := Option.map_eq_some_iff.mp feeds
      have grows := Run.run_captures ran
      rw [FailureReport.release_history] at grows
      obtain ⟨history, output, returned⟩ := Session.settle_output
        { session with
          inputs := session.inputs.push line
          report := (FailureReport.release session.report
            { world with machine := world.machine.append fragment }).1 } ended
      exact ⟨ended.outlet.captured, (congrArg Array.toList history).trans grows, output, returned⟩

def Operation.EmitsInLines : Operation → Prop
  | .run _ _ => False
  | .emit _ => False
  | _ => True

theorem Operation.perform_output {operation : Operation} {fuel : Nat} {scene after : Scene}
    (inLines : operation.EmitsInLines) (performed : operation.perform fuel scene = some after) :
    ∃ written,
      after.world.machine.history.toList = scene.world.machine.history.toList ++ written ∧
      after.session.output.toList = scene.session.output.toList ++ written := by
  have nothing {after : Scene} (history : after.world.machine.history = scene.world.machine.history)
      (output : after.session.output = scene.session.output) : ∃ written,
      after.world.machine.history.toList = scene.world.machine.history.toList ++ written ∧
      after.session.output.toList = scene.session.output.toList ++ written := by
    rw [history, output]
    exact ⟨[], (List.append_nil _).symm, (List.append_nil _).symm⟩
  cases operation with
  | append source file mode =>
      unfold perform at performed
      cases accepted : parse source file mode with
      | ok fragment =>
          simp only [accepted] at performed
          cases performed
          exact nothing rfl rfl
      | error fault =>
          simp only [accepted] at performed
          cases performed
          exact nothing rfl rfl
  | feed line input sink =>
      obtain ⟨fed, feeds, rfl⟩ := Option.map_eq_some_iff.mp performed
      obtain ⟨written, history, output, -⟩ := Session.feed_output feeds
      exact ⟨written, history, output⟩
  | run input outlet => exact inLines.elim
  | resetTape =>
      cases performed
      exact nothing rfl rfl
  | emit bytes => exact inLines.elim
  | replaceFiles files =>
      cases performed
      exact nothing rfl rfl

theorem Reaches.history_eq {start scene : Scene} (fresh : start.session.output = #[])
    (reached : Reaches Operation.EmitsInLines start scene) :
    scene.world.machine.history.toList =
      start.world.machine.history.toList ++ scene.session.output.toList := by
  induction reached with
  | refl =>
      rw [fresh]
      exact (List.append_nil _).symm
  | step _ inLines performed ih =>
      obtain ⟨written, history, output⟩ := Operation.perform_output inLines performed
      rw [history, output, ih, List.append_assoc]

/-- Between lines, and after every line however it ends, the history of the machine is what it was when
the session began, with the output of the session behind it; and a line that returns returns just the
bytes by which both have grown. -/
theorem session_output_is_history {start scene : Scene} (fresh : start.session.output = #[])
    (reached : Reaches Operation.EmitsInLines start scene) :
    scene.world.machine.history.toList =
        start.world.machine.history.toList ++ scene.session.output.toList ∧
      ∀ (fuel : Nat) (line : String) (input : Source) (sink : Option Channel) (fed : Fed),
        scene.session.feed fuel line sink { scene.world with source := input } = some fed →
          fed.world.machine.history.toList =
              start.world.machine.history.toList ++ fed.session.output.toList ∧
            ∀ bytes, fed.outcome = .ok bytes →
              fed.world.machine.history.toList = scene.world.machine.history.toList ++ bytes ∧
                fed.session.output.toList = scene.session.output.toList ++ bytes := by
  have accounts := reached.history_eq fresh
  refine ⟨accounts, ?_⟩
  intro fuel line input sink fed feeds
  obtain ⟨written, history, output, returned⟩ := Session.feed_output feeds
  constructor
  · rw [history, output, ← List.append_assoc, ← accounts]
  · intro bytes returns
    rw [returned bytes returns]
    exact ⟨history, output⟩

def emittingStart : Setup where
  services := { listeners := [⟨.programStart, "", [.emit [1]]⟩] }

/-- The start listener of a machine that has written before emits a byte, which the sink of the first
line refuses. The line fails before it starts, but the byte is kept on both sides; the second line returns
its own bytes only. -/
theorem refused_byte_kept_in_history_and_output :
    ∃ (start scene : Scene) (fed : Fed), start.session.output = #[] ∧
      Reaches Operation.EmitsInLines start scene ∧
      start.world.machine.history.toList = [9] ∧ scene.session.output.toList = [1] ∧
      scene.session.feed 9 "+." none scene.world = some fed ∧
      fed.outcome = .ok [1, 1] ∧
      fed.world.machine.history.toList = [9] ++ fed.session.output.toList ∧
      fed.session.output.toList = [1] ++ [1, 1] := by
  let start : Scene := emittingStart.scene.change fun machine => { machine with history := #[9] }
  let line : Operation := .feed "#nope;" (.ofBytes []) (some (.withRoom 0))
  have shown : (line.perform 9 start).map (fun scene => (scene.session.output.toList,
      (scene.session.feed 9 "+." none scene.world).map (fun fed => fed.outcome.toOption))) =
      some ([1], some (some [1, 1])) := by
    decide +kernel
  obtain ⟨scene, performed, seen⟩ := Option.map_eq_some_iff.mp shown
  simp only [Prod.mk.injEq] at seen
  obtain ⟨output, fedShown⟩ := seen
  obtain ⟨fed, feeds, outcome⟩ := Option.map_eq_some_iff.mp fedShown
  have inLines : line.EmitsInLines := trivial
  have reached : Reaches Operation.EmitsInLines start scene := .step .refl inLines performed
  obtain ⟨-, next⟩ := session_output_is_history rfl reached
  obtain ⟨history, returned⟩ := next 9 "+." scene.world.source none fed feeds
  have returns : fed.outcome = .ok [1, 1] := by
    cases result : fed.outcome with
    | ok bytes =>
        rw [result] at outcome
        exact congrArg Except.ok (Option.some.inj outcome)
    | error fault =>
        rw [result] at outcome
        cases outcome
  have grown := (returned [1, 1] returns).2
  rw [output] at grown
  exact ⟨start, scene, fed, rfl, reached, rfl, output, feeds, returns, history, grown⟩

end TapeLang
