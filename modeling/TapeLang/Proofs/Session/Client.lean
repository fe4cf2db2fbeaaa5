import TapeLang.Proofs.Machine.Ending
import TapeLang.Proofs.Stream.Calls
import TapeLang.Session.Feed

/-!
What a client can do with a session and its machine, in any order: append parsed fragments, feed lines,
run, reset the tape, emit, and change the files in between. With the built-in commands only, every
reachable program is well-formed and each operation only adds to its end; a line that the parser rejects
changes nothing.
-/

namespace TapeLang

structure Scene where
  session : Session := {}
  world : World

namespace Scene

def program (scene : Scene) : List Instruction := scene.world.machine.program.toList

def change (scene : Scene) (change : Machine → Machine) : Scene :=
  { scene with world := { scene.world with machine := change scene.world.machine } }

def fail (scene : Scene) (report : FailureReport) : Scene :=
  ⟨(scene.session.file report scene.world).1, (scene.session.file report scene.world).2⟩

/-- A machine at the start of a parsed program, or of an empty one, with the built-in commands only. -/
structure Fresh (scene : Scene) : Prop where
  session : scene.session = {}
  program : scene.program = [] ∨
    ∃ source file mode, parse source file mode = .ok scene.program
  created : ∃ file verbose tapeSize,
    Machine.create scene.program file verbose tapeSize = .ok scene.world.machine
  builtin : scene.world.host.services.Builtin

end Scene

namespace Setup

def scene (setup : Setup) : Scene := { world := setup.world }

theorem fresh (setup : Setup) (bare : setup.services = {})
    (parsed : setup.program = [] ∨ ∃ source file mode, parse source file mode = .ok setup.program) :
    setup.scene.Fresh where
  session := rfl
  program := parsed
  created := ⟨setup.file, setup.verbose, setup.tapeSize, setup.create_machine⟩
  builtin := setup.builtin bare

end Setup

def newSession (input : Bytes) : Setup where
  file := Session.lineFile
  source := .ofBytes input

inductive Operation where
  | append (source : Bytes) (file : String) (mode : Mode)
  | feed (line : String) (input : Source) (sink : Option Channel)
  | run (input : Source) (outlet : Outlet)
  | resetTape
  | emit (bytes : Bytes)
  | replaceFiles (files : FileSystem)

namespace Operation

def perform (fuel : Nat) (scene : Scene) : Operation → Option Scene
  | .append source file mode =>
    match parse source file mode with
    | .ok fragment => some (scene.change (·.append fragment))
    | .error fault => some (scene.fail { fault := .badSyntax fault })
  | .feed line input sink =>
    (scene.session.feed fuel line sink { scene.world with source := input }).map fun fed =>
      ⟨fed.session, fed.world⟩
  | .run input outlet =>
    (scene.session.run fuel outlet { scene.world with source := input }).map fun (session, ended) =>
      match ended.fault with
      | none => ⟨session, ended.world⟩
      | some fault => Scene.fail ⟨session, ended.world⟩ { fault }
  | .resetTape => some (scene.change (·.resetTape))
  | .emit bytes =>
    match Run.emit bytes scene.world with
    | .ok _ world => some { scene with world }
    | .error fault world => some (Scene.fail { scene with world } (.ofWrite world.machine fault))
  | .replaceFiles files =>
    some { scene with world := { scene.world with host := { scene.world.host with files } } }

def launch (scene : Scene) : Operation → Option (Outlet × World)
  | .feed line input sink =>
    match parse (Text.encode line) Session.lineFile .command with
    | .ok fragment =>
      some (.tee #[] sink,
        (FailureReport.release scene.session.report
          { scene.world with source := input, machine := scene.world.machine.append fragment }).2)
    | .error _ => none
  | .run input outlet =>
    some (outlet, (FailureReport.release scene.session.report { scene.world with source := input }).2)
  | _ => none

end Operation

inductive Reaches (allowed : Operation → Prop) (start : Scene) : Scene → Prop where
  | refl : Reaches allowed start start
  | step {scene after : Scene} {operation : Operation} {fuel : Nat}
      (reached : Reaches allowed start scene) (permitted : allowed operation)
      (performed : operation.perform fuel scene = some after) : Reaches allowed start after

/-- What every operation keeps: the program so far, its being well-formed, the cells there are, and
the services. -/
structure World.Follows (before after : World) : Prop where
  front : before.machine.program.toList <+: after.machine.program.toList
  wellFormed : WellFormed before.machine.program.toList → WellFormed after.machine.program.toList
  size : before.machine.tape.size ≤ after.machine.tape.size
  services : after.host.services = before.host.services

namespace World.Follows

theorem refl (world : World) : world.Follows world :=
  ⟨List.prefix_rfl, id, Nat.le_refl _, rfl⟩

theorem trans {first second third : World} (before : first.Follows second)
    (after : second.Follows third) : first.Follows third where
  front := before.front.trans after.front
  wellFormed well := after.wellFormed (before.wellFormed well)
  size := Nat.le_trans before.size after.size
  services := after.services.trans before.services

theorem builtin {before after : World} (follows : before.Follows after)
    (builtin : before.host.services.Builtin) : after.host.services.Builtin := by
  rw [follows.services]
  exact builtin

end World.Follows

theorem World.Later.follows {before after : World} (later : before.Later after) :
    before.Follows after where
  front := later.program.keeps_front
  wellFormed := later.program.well_formed
  size := later.size
  services := later.services

theorem World.follows_supply (world : World) (input : Source) :
    world.Follows { world with source := input } :=
  ⟨List.prefix_rfl, id, Nat.le_refl _, rfl⟩

theorem World.follows_append (world : World) {source : Bytes} {file : String} {mode : Mode}
    {fragment : List Instruction} (accepted : parse source file mode = .ok fragment) :
    world.Follows { world with machine := world.machine.append fragment } := by
  constructor
  · rw [Machine.append_program]
    exact List.prefix_append _ _
  · intro well
    rw [Machine.append_program]
    exact well.append (.of_parse accepted)
  · exact Nat.le_refl _
  · rfl

theorem Session.follows_file (session : Session) (report : FailureReport) (world : World) :
    world.Follows (session.file report world).2 :=
  ⟨List.prefix_rfl, id, Nat.le_refl _, rfl⟩

theorem Scene.follows_fail (scene : Scene) (report : FailureReport) :
    scene.world.Follows (scene.fail report).world :=
  scene.session.follows_file report scene.world

theorem FailureReport.follows_release (report : Option FailureReport) (world : World) :
    world.Follows (FailureReport.release report world).2 := by
  unfold FailureReport.release
  split
  · split <;> exact ⟨List.prefix_rfl, id, Nat.le_refl _, rfl⟩
  · exact .refl world

theorem Session.follows_settle (session : Session) (ended : Ended) :
    ended.world.Follows (session.settle ended).world := by
  unfold Session.settle
  cases ended.fault with
  | none => exact ⟨List.prefix_rfl, id, Nat.le_refl _, rfl⟩
  | some fault =>
      dsimp only
      cases FailureReport.isWrapped ended.verdict <;> cases fault.ofProgram <;>
        exact ⟨List.prefix_rfl, id, Nat.le_refl _, rfl⟩

theorem Session.follows_run {fuel : Nat} {session after : Session} {outlet : Outlet} {world : World}
    {ended : Ended} (builtin : world.host.services.Builtin)
    (ran : session.run fuel outlet world = some (after, ended)) : world.Follows ended.world := by
  have released := FailureReport.follows_release session.report world
  obtain ⟨result, inner, same⟩ := Option.map_eq_some_iff.mp ran
  cases same
  exact released.trans (Run.run_later (released.builtin builtin) inner).follows

/-- Every operation only adds to the end of the program, and adds what keeps it well-formed. -/
theorem Operation.follows_perform {operation : Operation} {fuel : Nat} {scene after : Scene}
    (builtin : scene.world.host.services.Builtin)
    (performed : operation.perform fuel scene = some after) : scene.world.Follows after.world := by
  cases operation with
  | append source file mode =>
      unfold perform at performed
      cases accepted : parse source file mode with
      | ok fragment =>
          simp only [accepted] at performed
          cases performed
          exact scene.world.follows_append accepted
      | error fault =>
          simp only [accepted] at performed
          cases performed
          exact scene.follows_fail _
  | feed line input sink =>
      obtain ⟨fed, ran, rfl⟩ := Option.map_eq_some_iff.mp performed
      have supplied := scene.world.follows_supply input
      apply supplied.trans
      unfold Session.feed at ran
      cases accepted : parse (Text.encode line) Session.lineFile .command with
      | error fault =>
          simp only [accepted] at ran
          cases ran
          exact scene.session.follows_file { fault := .badSyntax fault } _
      | ok fragment =>
          simp only [accepted] at ran
          obtain ⟨⟨session, ended⟩, inner, rfl⟩ := Option.map_eq_some_iff.mp ran
          have appended := World.follows_append { scene.world with source := input } accepted
          have followed := Session.follows_run (appended.builtin builtin) inner
          exact appended.trans (followed.trans (Session.follows_settle _ _))
  | run input outlet =>
      obtain ⟨⟨session, ended⟩, ran, same⟩ := Option.map_eq_some_iff.mp performed
      have supplied := scene.world.follows_supply input
      apply supplied.trans ((Session.follows_run (supplied.builtin builtin) ran).trans ?_)
      cases raised : ended.fault with
      | none =>
          simp only [raised] at same
          cases same
          exact .refl _
      | some fault =>
          simp only [raised] at same
          cases same
          exact Scene.follows_fail ⟨session, ended.world⟩ { fault }
  | resetTape =>
      cases performed
      exact ⟨List.prefix_rfl, id, Nat.le_refl _, rfl⟩
  | emit bytes =>
      have advances : Run.Advances (Run.emit bytes) scene.world := Run.advances_emit bytes
      unfold perform at performed
      cases result : Run.emit bytes scene.world with
      | ok value world =>
          simp only [result] at performed
          cases performed
          exact (advances.of_ok result).follows
      | error fault world =>
          simp only [result] at performed
          cases performed
          exact (advances.of_error result).follows.trans
            (Scene.follows_fail { scene with world } (.ofWrite world.machine fault))
  | replaceFiles files =>
      cases performed
      exact ⟨List.prefix_rfl, id, Nat.le_refl _, rfl⟩

theorem Scene.Fresh.well_formed {scene : Scene} (fresh : scene.Fresh) :
    WellFormed scene.program := by
  rcases fresh.program with empty | ⟨source, file, mode, accepted⟩
  · rw [empty]
    exact .nil
  · exact .of_parse accepted

theorem Reaches.follows {allowed : Operation → Prop} {start scene : Scene}
    (builtin : start.world.host.services.Builtin) (reached : Reaches allowed start scene) :
    start.world.Follows scene.world := by
  induction reached with
  | refl => exact .refl _
  | step _ _ performed ih => exact ih.trans (Operation.follows_perform (ih.builtin builtin) performed)

theorem Operation.launch_cases {operation : Operation} {scene : Scene} {outlet : Outlet}
    {world : World} (launched : operation.launch scene = some (outlet, world)) :
    (∃ line input sink fragment, operation = .feed line input sink ∧
        parse (Text.encode line) Session.lineFile .command = .ok fragment ∧ outlet = .tee #[] sink ∧
        world = (FailureReport.release scene.session.report
          { scene.world with source := input, machine := scene.world.machine.append fragment }).2) ∨
      ∃ input, operation = .run input outlet ∧
        world = (FailureReport.release scene.session.report
          { scene.world with source := input }).2 := by
  cases operation with
  | feed line input sink =>
      left
      unfold launch at launched
      cases accepted : parse (Text.encode line) Session.lineFile .command with
      | error fault =>
          simp only [accepted] at launched
          cases launched
      | ok fragment =>
          simp only [accepted] at launched
          cases launched
          exact ⟨line, input, sink, fragment, rfl, accepted, rfl, rfl⟩
  | run input outlet =>
      right
      cases launched
      exact ⟨input, rfl, rfl⟩
  | append source file mode => cases launched
  | resetTape => cases launched
  | emit bytes => cases launched
  | replaceFiles files => cases launched

theorem Operation.follows_launch {operation : Operation} {scene : Scene} {outlet : Outlet}
    {world : World} (launched : operation.launch scene = some (outlet, world)) :
    scene.world.Follows world := by
  rcases launch_cases launched with
    ⟨line, input, sink, fragment, rfl, accepted, rfl, rfl⟩ | ⟨input, rfl, rfl⟩
  · have supplied := scene.world.follows_supply input
    have appended := World.follows_append { scene.world with source := input } accepted
    exact supplied.trans (appended.trans (FailureReport.follows_release _ _))
  · exact (scene.world.follows_supply input).trans (FailureReport.follows_release _ _)

theorem FailureReport.discard_events (report : Option FailureReport) :
    ∀ event ∈ FailureReport.discard report, event = .flushed := by
  intro event found
  unfold FailureReport.discard at found
  split at found
  case h_1 fault tee =>
    cases tee with
    | direct channel => cases found
    | tee captured sink => exact Outlet.flush_events _ event found
  case h_2 => cases found

theorem Session.feed_rejected (fuel : Nat) (session : Session) {line : String} (sink : Option Channel)
    (world : World) {fault : SyntaxFault}
    (rejected : parse (Text.encode line) Session.lineFile .command = .error fault) :
    ∃ fed, session.feed fuel line sink world = some fed ∧ fed.outcome = .error (.badSyntax fault) ∧
      fed.world.machine = world.machine ∧ fed.world.source = world.source ∧
      fed.world.host.output = world.host.output ∧ fed.session.output = session.output ∧
      fed.session.inputs = session.inputs := by
  have written := World.output_record_flushes world (FailureReport.discard_events session.report)
  unfold Session.feed
  rw [rejected]
  exact ⟨_, rfl, rfl, rfl, rfl, written, rfl, rfl⟩

/-- Every reachable program is well-formed, also in the middle of a run; an operation only adds to its
end; and a line that is rejected changes nothing. -/
theorem reachable_program_well_formed {start scene : Scene} (fresh : start.Fresh)
    (reached : Reaches (fun _ => True) start scene) :
    WellFormed scene.program ∧
      (∀ (operation : Operation) (fuel : Nat) (after : Scene),
        operation.perform fuel scene = some after → scene.program <+: after.program) ∧
      (∀ (operation : Operation) (outlet : Outlet) (world : World) (fuel : Nat),
        operation.launch scene = some (outlet, world) →
          WellFormed (Run.point outlet world fuel).machine.program.toList ∧
            scene.program <+: (Run.point outlet world fuel).machine.program.toList) ∧
      ∀ (line : String) (input : Source) (sink : Option Channel) (fuel : Nat) (fault : SyntaxFault),
        parse (Text.encode line) Session.lineFile .command = .error fault →
          ∃ fed, scene.session.feed fuel line sink { scene.world with source := input } = some fed ∧
            fed.outcome = .error (.badSyntax fault) ∧
            fed.world.machine = scene.world.machine ∧ fed.world.source = input ∧
            fed.world.host.output = scene.world.host.output ∧
            fed.session.output = scene.session.output ∧
            fed.session.inputs = scene.session.inputs := by
  have followed := reached.follows fresh.builtin
  have builtin := followed.builtin fresh.builtin
  have well : WellFormed scene.program := followed.wellFormed fresh.well_formed
  refine ⟨well, ?_, ?_, ?_⟩
  · intro operation fuel after performed
    exact (Operation.follows_perform builtin performed).front
  · intro operation outlet world fuel launched
    have started := Operation.follows_launch launched
    have passed := (Run.point_later outlet (started.builtin builtin) fuel).follows
    have whole := started.trans passed
    exact ⟨whole.wellFormed well, whole.front⟩
  · intro line input sink fuel fault rejected
    exact Session.feed_rejected fuel scene.session sink { scene.world with source := input } rejected

def includedLoop : Setup where
  program := [.counted .increment 1]
  files := .uniform (.bytes [91, 45, 93])

/-- A line whose loop includes a file that holds a loop, fed to a machine that has a program. -/
theorem included_loop_well_formed :
    ∃ start scene : Scene, start.Fresh ∧ Reaches (fun _ => True) start scene ∧
      scene.program = [.counted .increment 1, .loopStart (some 5), .command "include a",
        .counted .decrement 1, .loopEnd 1, .loopStart (some 8), .counted .decrement 1, .loopEnd 5] ∧
      WellFormed scene.program := by
  have fresh : includedLoop.scene.Fresh := includedLoop.fresh rfl (.inr ⟨[43], "", .normal, rfl⟩)
  have fed : ((Operation.feed "[#include a;-]" (.ofBytes []) none).perform 20 includedLoop.scene).map
      Scene.program = some [.counted .increment 1, .loopStart (some 5), .command "include a",
        .counted .decrement 1, .loopEnd 1, .loopStart (some 8), .counted .decrement 1,
        .loopEnd 5] := by
    decide +kernel
  obtain ⟨scene, performed, program⟩ := Option.map_eq_some_iff.mp fed
  have reached : Reaches (fun _ => True) includedLoop.scene scene := .step .refl trivial performed
  exact ⟨_, scene, fresh, reached, program, (reachable_program_well_formed fresh reached).1⟩

end TapeLang
