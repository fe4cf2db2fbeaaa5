import TapeLang.Proofs.Machine.Deeds
import TapeLang.Proofs.Session.Tracing

/-!
The tape of a session's machine. Whatever a client does, and at every point of every run, the machine shows
the front of an unbounded strip on which the same was done, as far as its pointer has reached or as there
were cells at first. Growing keeps the cells and shows zeros behind them, wherever they come from; clearing
moves neither the end of the tape nor the pointer.
-/

namespace TapeLang

/-- The machine shows the front of a blank strip on which the deeds were done: as many cells as there were at
first, or up to the farthest place where its pointer has been. -/
structure Machine.Overlooks (machine : Machine) (initial : Nat) (deeds : List Deed) : Prop where
  pointer : machine.pointer = (Strip.blank.after deeds).head
  farthest :
    (∀ earlier, earlier <+: deeds → (Strip.blank.after earlier).head ≤ (Strip.blank.after deeds).reach) ∧
      ∃ earlier, earlier <+: deeds ∧ (Strip.blank.after earlier).head = (Strip.blank.after deeds).reach
  size : machine.tape.size = max initial ((Strip.blank.after deeds).reach + 1)
  cells : machine.cells = (List.range machine.tape.size).map (Strip.blank.after deeds).cell

namespace World.Depicts

variable {world : World} {config : Config} {strip : Strip} {initial : Nat}

theorem size_window (depicts : world.Depicts (strip.window initial)) :
    world.machine.tape.size = strip.shown initial := by
  rw [depicts.size]
  exact strip.length_front _

theorem overlooks {deeds : List Deed} (depicts : world.Depicts ((Strip.blank.after deeds).window initial)) :
    world.machine.Overlooks initial deeds := by
  refine ⟨depicts.pointer, Strip.reach_largest deeds, depicts.size_window, ?_⟩
  rw [depicts.size_window]
  exact depicts.cells

theorem step_right (depicts : world.Depicts config) {count : Nat}
    (fetched : world.machine.fetch world.machine.ip = .ok (.counted .shiftRight count)) :
    ∃ after, Run.step world = .ok () after ∧ after.machine.pointer = world.machine.pointer + count ∧
      after.machine.cells = world.machine.cells ++
        List.replicate (after.machine.tape.size - world.machine.tape.size) 0 := by
  have moves : Run.Yields Run.step world
      (fun _ after => after.Depicts (config.times count .shiftRight)) fun _ _ => False := by
    let logged : World := { world with machine := world.machine.logStep (.counted .shiftRight count) }
    have noted : logged.Depicts config := { depicts with }
    rw [Run.yields_step fetched]
    apply (noted.counted count .shiftRight).bind_sure
    intro _ after still
    exact { still with }
  cases result : Run.step world with
  | error fault after => exact (moves.of_error result).elim
  | ok _ after =>
      have still := moves.of_ok result
      have cells := still.cells
      refine ⟨after, rfl, ?_, ?_⟩
      · rw [still.pointer, depicts.pointer]
        rfl
      · have more : after.machine.tape.size - world.machine.tape.size =
            config.pointer + count + 1 - config.cells.length := by
          rw [still.size, depicts.size]
          simp [Config.times]
        rw [more, cells, depicts.cells]
        rfl

/-- A clear that is called leaves zeros in every cell and the pointer where it was, also when it fails. -/
theorem step_clear (depicts : world.Depicts (strip.window initial))
    (builtin : world.host.services.Builtin) {text : String}
    (fetched : world.machine.fetch world.machine.ip = .ok (.command text)) (clears : CallsClear text) :
    Run.Yields Run.step world
      (fun _ after => after.machine.pointer = world.machine.pointer ∧
        after.machine.cells = List.replicate world.machine.tape.size 0)
      fun _ after => after.machine.pointer = world.machine.pointer ∧
        after.machine.cells = List.replicate world.machine.tape.size 0 := by
  have does : world.deeds = [.clear] := by
    rw [deeds, fetched]
    exact if_pos clears
  have stepped := depicts.step_deeds builtin
  rw [does] at stepped
  have cleared {after : World} (still : after.Depicts (strip.clear.window initial)) :
      after.machine.pointer = world.machine.pointer ∧
        after.machine.cells = List.replicate world.machine.tape.size 0 := by
    constructor
    · rw [still.pointer, depicts.pointer]
      rfl
    · rw [still.cells, depicts.size_window]
      exact strip.front_clear _
  exact stepped.mono (fun _ _ => cleared) fun _ _ => cleared

end World.Depicts

theorem Scene.Fresh.depicts {scene : Scene} (fresh : scene.Fresh) :
    scene.world.Depicts (Strip.blank.window scene.world.machine.tape.size) := by
  obtain ⟨file, verbose, tapeSize, created⟩ := fresh.created
  unfold Machine.create at created
  split at created
  case isTrue => cases created
  case isFalse positive =>
    have machine := (Except.ok.inj created).symm
    have tape : scene.world.machine.tape = .blank tapeSize.toNat := by rw [machine]
    have pointer : scene.world.machine.pointer = 0 := by rw [machine]
    have positive : 1 ≤ scene.world.machine.tape.size := by
      rw [tape]
      dsimp only [Tape.blank]
      omega
    rw [Strip.window_blank positive]
    refine ⟨?_, pointer, tape ▸ Tape.clean_blank _⟩
    change scene.world.machine.tape.cells = List.replicate scene.world.machine.tape.size 0
    rw [tape, Tape.cells_blank]
    rfl

def Operation.deeds (fuel : Nat) (scene : Scene) (operation : Operation) : List Deed :=
  match operation.launch scene with
  | some (outlet, world) => Run.deeds fuel (world.attach outlet)
  | none =>
    match operation with
    | .resetTape => [.clear]
    | _ => []

inductive Scene.Unfolds (start : Scene) : List Deed → Scene → Prop where
  | refl : Unfolds start [] start
  | step {deeds : List Deed} {scene after : Scene} {operation : Operation} {fuel : Nat}
      (earlier : Unfolds start deeds scene) (performed : operation.perform fuel scene = some after) :
      Unfolds start (deeds ++ operation.deeds fuel scene) after

theorem Scene.Unfolds.builtin {start scene : Scene} {deeds : List Deed} (fresh : start.Fresh)
    (history : start.Unfolds deeds scene) : scene.world.host.services.Builtin := by
  induction history with
  | refl => exact fresh.builtin
  | step _ performed ih => exact (Operation.follows_perform ih performed).builtin ih

namespace Operation

variable {operation : Operation} {scene after : Scene} {outlet : Outlet} {world : World} {fuel : Nat}
  {strip : Strip} {initial : Nat}

theorem depicts_launch {config : Config} (depicts : scene.world.Depicts config)
    (launched : operation.launch scene = some (outlet, world)) : world.Depicts config := by
  obtain ⟨program, attached, machine⟩ := launch_frame launched
  exact depicts.of_machine (by rw [machine]) (by rw [machine])

theorem depicts_perform (depicts : scene.world.Depicts (strip.window initial))
    (builtin : scene.world.host.services.Builtin) (performed : operation.perform fuel scene = some after) :
    after.world.Depicts ((strip.after (operation.deeds fuel scene)).window initial) := by
  cases launched : operation.launch scene with
  | some start =>
      obtain ⟨outlet, world⟩ := start
      have begins := depicts_launch depicts launched
      have still := (follows_launch launched).builtin builtin
      obtain ⟨report, runs⟩ := perform_of_launch launched
      rw [runs] at performed
      obtain ⟨ended, ran, rfl⟩ := Option.map_eq_some_iff.mp performed
      obtain ⟨ip, attached, machine⟩ := resume_frame scene operation report ended
      have ends := begins.run_deeds still ran
      unfold deeds
      rw [launched]
      exact ends.of_machine (by rw [machine]) (by rw [machine])
  | none =>
      obtain ⟨program, tape, history, attached, machine, which, -⟩ := idle_frame launched performed
      cases operation with
      | resetTape =>
          cases performed
          exact depicts.clear_strip
      | _ =>
          rcases which with rfl | ⟨impossible, -⟩
          · unfold deeds
            rw [launched]
            exact depicts.of_machine (by rw [machine]) (by rw [machine])
          · cases impossible

end Operation

theorem Scene.Unfolds.depicts {start scene : Scene} {deeds : List Deed} (fresh : start.Fresh)
    (history : start.Unfolds deeds scene) :
    scene.world.Depicts ((Strip.blank.after deeds).window start.world.machine.tape.size) := by
  induction history with
  | refl => exact fresh.depicts
  | step earlier performed ih =>
      rw [Strip.after_append]
      exact Operation.depicts_perform ih (earlier.builtin fresh) performed

/-- The tape is a window on an unbounded strip of zeros. After any operations, and at every point of the runs
that they make, the machine shows the front of the strip on which the same was done, up to the farthest
place of the pointer or the end of the first cells. A step to the right keeps every cell and shows only
zeros behind them. A clear, by command or by the client, leaves as many cells and the pointer where it was. -/
theorem tape_is_window_on_strip {start scene : Scene} {deeds : List Deed} (fresh : start.Fresh)
    (history : start.Unfolds deeds scene) :
    scene.world.machine.Overlooks start.world.machine.tape.size deeds ∧
      (∀ (operation : Operation) (outlet : Outlet) (world here : World) (fuel : Nat),
        operation.launch scene = some (outlet, world) → Run.point outlet world fuel = here →
          here.machine.Overlooks start.world.machine.tape.size
            (deeds ++ Run.deeds fuel (world.attach outlet)) ∧
          (∀ count, here.machine.fetch here.machine.ip = .ok (.counted .shiftRight count) →
            ∃ after, Run.step here = .ok () after ∧
              after.machine.pointer = here.machine.pointer + count ∧
              after.machine.cells = here.machine.cells ++
                List.replicate (after.machine.tape.size - here.machine.tape.size) 0) ∧
          ∀ text, here.machine.fetch here.machine.ip = .ok (.command text) → CallsClear text →
            Run.Yields Run.step here
              (fun _ after => after.machine.pointer = here.machine.pointer ∧
                after.machine.cells = List.replicate here.machine.tape.size 0)
              fun _ after => after.machine.pointer = here.machine.pointer ∧
                after.machine.cells = List.replicate here.machine.tape.size 0) ∧
      ∀ (fuel : Nat) (after : Scene), Operation.resetTape.perform fuel scene = some after →
        after.world.machine.pointer = scene.world.machine.pointer ∧
          after.world.machine.cells = List.replicate scene.world.machine.tape.size 0 := by
  have depicts := history.depicts fresh
  have builtin := history.builtin fresh
  refine ⟨depicts.overlooks, ?_, ?_⟩
  · rintro operation outlet world _ fuel launched rfl
    have begins := Operation.depicts_launch depicts launched
    have still := (Operation.follows_launch launched).builtin builtin
    have here := begins.point_deeds still outlet fuel
    rw [← Strip.after_append] at here
    refine ⟨here.overlooks, fun count fetched => here.step_right fetched, ?_⟩
    intro text fetched clears
    exact here.step_clear ((Run.point_later outlet still fuel).builtin still) fetched clears
  · intro fuel after performed
    cases performed
    exact ⟨rfl, Tape.cells_clear _⟩

def shortTape : Setup where
  program := [.counted .shiftRight 3, .counted .increment 7, .counted .shiftLeft 1]
  furtherCells := 2

/-- A program writes beyond its three cells, the client clears the tape, and a line then goes on into the
room that the first growth has left. -/
theorem tape_grows_into_cleared_room :
    ∃ (start scene : Scene) (deeds : List Deed), start.Fresh ∧ start.Unfolds deeds scene ∧
      deeds = [.counted .shiftRight 3, .counted .increment 7, .counted .shiftLeft 1, .clear,
        .counted .shiftRight 3, .counted .increment 1] ∧
      start.world.machine.tape.size = 3 ∧ scene.world.machine.tape.store.size = 6 ∧
      scene.world.machine.cells = [0, 0, 0, 0, 0, 1] ∧ scene.world.machine.Overlooks 3 deeds := by
  let run : Operation := .run (.ofBytes []) (.direct {})
  let line : Operation := .feed ">>>+" (.ofBytes []) none
  have fresh : shortTape.scene.Fresh :=
    shortTape.fresh rfl (.inr ⟨[62, 62, 62, 43, 43, 43, 43, 43, 43, 43, 60], "a", .normal,
      parse_eq_ok_of_some (by decide +kernel)⟩)
  have shown : (run.perform 9 shortTape.scene).bind (fun first =>
      (Operation.resetTape.perform 9 first).bind fun second =>
        (line.perform 9 second).map fun scene =>
          ([] ++ run.deeds 9 shortTape.scene ++ Operation.resetTape.deeds 9 first ++ line.deeds 9 second,
            scene.world.machine.tape.store.size, scene.world.machine.cells)) =
      some ([.counted .shiftRight 3, .counted .increment 7, .counted .shiftLeft 1, .clear,
        .counted .shiftRight 3, .counted .increment 1], 6, [0, 0, 0, 0, 0, 1]) := by
    decide +kernel
  obtain ⟨first, ran, rest⟩ := Option.bind_eq_some_iff.mp shown
  obtain ⟨second, cleared, last⟩ := Option.bind_eq_some_iff.mp rest
  obtain ⟨scene, fed, seen⟩ := Option.map_eq_some_iff.mp last
  simp only [Prod.mk.injEq] at seen
  obtain ⟨deeds, room, cells⟩ := seen
  have history := ((Scene.Unfolds.refl.step ran).step cleared).step fed
  exact ⟨shortTape.scene, scene, _, fresh, history, deeds, rfl, room, cells,
    (tape_is_window_on_strip fresh history).1⟩

end TapeLang
