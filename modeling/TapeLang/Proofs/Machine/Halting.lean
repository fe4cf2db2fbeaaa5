import TapeLang.Proofs.Machine.Motion
import TapeLang.Proofs.Program.LoopFree

/-!
Programs without loops always come to an end, also when they include files. Such a program grows while it
runs, so the instructions that are left can become more; but no include adds a command, so the commands
that are left become fewer with each of them, and between two commands the instructions do.
-/

namespace TapeLang

structure World.Straight (world : World) : Prop where
  program : LoopFree world.machine.program.toList
  files : ∀ text, .command text ∈ world.machine.program.toList → commandName text = "include" →
    ∀ path ∈ commandArguments text, ∀ source, world.host.files.read path = .ok source →
      Brackets.Absent source

theorem LoopFree.next {program : List Instruction} (loopFree : LoopFree program)
    {instruction : Instruction} {ip next : Int}
    (found : instruction ∈ program) (goes : instruction.GoesTo ip next) : next = ip + 1 := by
  cases goes with
  | next => rfl
  | past => exact (loopFree.opening _ found).elim
  | back => exact (loopFree.closing _ found).elim

/-- How much is left to do: first the commands that are left, then the instructions. -/
def World.remaining (world : World) : Nat × Nat :=
  ((world.machine.program.toList.drop world.machine.ip.toNat).countP Instruction.isCommand,
    (world.machine.program.toList.drop world.machine.ip.toNat).length)

namespace Run

/-- Steps end if each of them leaves less to do. -/
theorem steps_end {kept : World → Prop} {less : α → α → Prop} (wellFounded : WellFounded less)
    (measure : World → α)
    (decreases : ∀ world, kept world → world.machine.halted = false →
      Yields step world (fun _ after => kept after ∧ less (measure after) (measure world))
        fun _ _ => True)
    {world : World} (holds : kept world) :
    ∃ fuel failure executed, steps fuel world = stopped failure executed := by
  generalize size : measure world = left
  induction left using wellFounded.induction generalizing world with
  | h left ih =>
      cases halted : world.machine.halted with
      | true => exact ⟨0, none, world, by rw [steps_zero, halted]; rfl⟩
      | false =>
          have stepped := decreases world holds halted
          cases result : step world with
          | error fault after =>
              refine ⟨1, some fault, after, ?_⟩
              rw [steps_succ_of_running 0 halted, bind_eq, result]
              rfl
          | ok _ middle =>
              obtain ⟨still, smaller⟩ := stepped.of_ok result
              obtain ⟨fuel, failure, executed, stops⟩ := ih _ (size ▸ smaller) still rfl
              refine ⟨fuel + 1, failure, executed, ?_⟩
              rw [steps_succ_of_running fuel halted, bind_eq, result]
              exact stops

theorem run_of_stopped {fuel : Nat} {outlet : Outlet} {world executed : World} {failure : Option Fault}
    (builtin : world.host.services.Builtin) (running : world.machine.halted = false)
    (stops : steps fuel (world.attach outlet) = stopped failure executed) :
    run fuel outlet world = some (ending outlet failure executed) := by
  rw [run_of_running fuel outlet builtin running, stops]
  cases failure <;> rfl

theorem keeps_program_exec (program : Array Instruction) {instruction : Instruction} (ip : Int)
    (plain : instruction.isCommand = false) :
    Keeps (fun world => world.machine.program = program) (exec instruction ip) := by
  have known : ∀ text, instruction ≠ .command text := by
    rintro text rfl
    cases plain
  have same {before after : Machine} (moves : before.Moves after) : after.program = before.program := by
    rcases moves with ⟨_, _, _, _, rfl⟩
    rfl
  rintro world rfl
  exact (keeps_moves_exec ip known world (.refl world.machine)).mono (fun _ _ => same) fun _ _ => same

theorem yields_load_files_loop_free {world : World} {loaded : List Instruction} (paths : List String)
    (absent : ∀ path ∈ paths, ∀ source, world.host.files.read path = .ok source →
      Brackets.Absent source) (loopFree : LoopFree loaded) :
    Yields (loadFiles loaded paths) world (fun result _ => LoopFree result) fun _ _ => True := by
  induction paths generalizing loaded world with
  | nil => exact loopFree
  | cons path rest ih =>
      have later : ∀ path ∈ rest, ∀ source, world.host.files.read path = .ok source →
          Brackets.Absent source := fun other found => absent other (List.mem_cons_of_mem path found)
      rw [loadFiles, yields_bind, yields_get]
      cases opened : world.host.files.read path with
      | ok source =>
          rw [yields_bind, yields_lift]
          refine ⟨?_, fun _ _ => trivial⟩
          intro fragment accepted
          rw [yields_bind, yields_modify_machine]
          have brought := LoopFree.of_parse accepted (absent path List.mem_cons_self source opened)
          apply ih
          · exact later
          · exact loopFree.append_relocate brought _
      | error fault =>
          rcases read_error opened with ⟨reason, rfl⟩ | ⟨-, rfl⟩
          · apply (yields_skip_file path reason world).bind_sure
            intro _ middle skipped
            apply ih _ loopFree
            rw [skipped.files_eq]
            exact later
          · trivial

section LoopFree

variable {world : World}

theorem yields_command_loop_free (straight : world.Straight) (builtin : world.host.services.Builtin)
    {text : String} (found : .command text ∈ world.machine.program.toList) (ip : Int) :
    Yields (command text ip) world (fun _ after => LoopFree after.machine.program.toList)
      fun _ after => LoopFree after.machine.program.toList := by
  unfold Yields
  rw [command_eq_builtin_command text ip builtin]
  change Yields (builtinCommand text ip) world _ _
  rw [builtinCommand, yields_bind, yields_get, yields_bind, yields_lift]
  refine ⟨?_, fun _ _ => straight.program⟩
  intro spec resolved
  rcases resolve_builtin builtin resolved with ⟨named, rfl⟩ | ⟨-, rfl⟩
  · have brings := yields_load_files_loop_free (commandArguments text) (straight.files text found named)
      .nil
    change Yields (includeFiles (commandArguments text)) world _ _
    rw [includeFiles, yields_bind]
    apply ((yields_load_files [] _ world).and brings).mono
    · rintro result after ⟨⟨noted, -⟩, free⟩
      rw [yields_modify_machine, Machine.append_program]
      rcases noted with ⟨_, _, _, rfl⟩
      exact straight.program.append_relocate free _
    · rintro fault after ⟨noted, -⟩
      rcases noted with ⟨_, _, _, rfl⟩
      exact straight.program
  · exact keeps_emit (fun _ _ holds => holds) (fun _ _ holds => holds) _ _ straight.program

theorem yields_exec_loop_free (straight : world.Straight) (builtin : world.host.services.Builtin)
    {instruction : Instruction} (found : instruction ∈ world.machine.program.toList) (ip : Int) :
    Yields (exec instruction ip) world (fun _ after => LoopFree after.machine.program.toList)
      fun _ after => LoopFree after.machine.program.toList := by
  cases command : instruction.isCommand with
  | false =>
      have same {after : World} (program : after.machine.program = world.machine.program) :
          LoopFree after.machine.program.toList := program ▸ straight.program
      exact (keeps_program_exec world.machine.program ip command world rfl).mono (fun _ _ => same)
        fun _ _ => same
  | true =>
      cases instruction with
      | command text =>
          rw [exec, yields_bind]
          exact yields_command_loop_free straight builtin found ip
      | _ => cases command

end LoopFree

end Run

namespace World.Straight

variable {world : World}

theorem of_later {after : World} (straight : world.Straight) (later : world.Later after)
    (program : LoopFree after.machine.program.toList) : after.Straight where
  program := program
  files := by
    intro text found
    rw [later.program.command_mem] at found
    rw [later.files]
    exact straight.files text found

/-- Less is left to do after an instruction: fewer commands after a command, and fewer instructions after
another instruction. -/
theorem remaining_decreases {before after : World} {index : Nat} {instruction : Instruction}
    (grown : Grows before.machine.program.toList after.machine.program.toList)
    (same : instruction.isCommand = false → after.machine.program = before.machine.program)
    (found : before.machine.program.toList[index]? = some instruction)
    (here : before.machine.ip = index) (moved : after.machine.ip = index + 1) :
    Prod.Lex (· < ·) (· < ·) after.remaining before.remaining := by
  obtain ⟨inside, here_eq⟩ := List.getElem?_eq_some_iff.mp found
  have ahead : before.machine.program.toList.drop index =
      instruction :: before.machine.program.toList.drop (index + 1) := by
    rw [List.drop_eq_getElem_cons inside, here_eq]
  have reached : after.machine.ip.toNat = index + 1 := by omega
  unfold World.remaining
  rw [here, reached, Int.toNat_natCast, ahead, List.countP_cons, List.length_cons]
  cases command : instruction.isCommand with
  | false =>
      rw [same command]
      exact .right _ (Nat.lt_succ_self _)
  | true =>
      obtain ⟨rest, program, none⟩ := grown.exists_rest
      rw [program, List.drop_append_of_le_length inside, List.countP_append, none]
      exact .left _ _ (by simp)

theorem step (straight : world.Straight) (standing : world.StandsBehind [])
    (running : world.machine.halted = false) :
    Run.Yields Run.step world
      (fun _ after => after.Straight ∧ Prod.Lex (· < ·) (· < ·) after.remaining world.remaining)
      fun _ after => after.Straight := by
  obtain ⟨index, instruction, here, found, fetched⟩ := standing.found running
  have member := List.mem_of_getElem? found
  let logged : World := { world with machine := world.machine.logStep instruction }
  have noted : logged.Straight := { straight with }
  have free := Run.yields_exec_loop_free noted standing.builtin member world.machine.ip
  have goes := Run.yields_exec_goes instruction world.machine.ip logged
  have advances : Run.Advances (Run.exec instruction world.machine.ip) logged :=
    Run.advances_exec instruction world.machine.ip standing.builtin
  rw [Run.yields_step fetched]
  unfold Run.Yields
  cases result : Run.exec instruction world.machine.ip
      { world with machine := world.machine.logStep instruction } with
  | error fault after => exact noted.of_later (advances.of_error result) (free.of_error result)
  | ok next after =>
      have later := advances.of_ok result
      have moved := straight.program.next member (goes.of_ok result)
      have same (plain : instruction.isCommand = false) : after.machine.program = world.machine.program :=
        (Run.keeps_program_exec world.machine.program world.machine.ip plain logged rfl).of_ok result
      have still : LoopFree after.machine.program.toList := free.of_ok result
      refine ⟨noted.of_later ⟨later.program, later.size, later.services, later.files⟩ still, ?_⟩
      exact remaining_decreases later.program same found here (moved.trans (by rw [here]))

theorem run_ends (straight : world.Straight) (standing : world.StandsBehind []) (outlet : Outlet) :
    ∃ fuel ended, Run.run fuel outlet world = some ended := by
  cases halted : world.machine.halted with
  | true => exact ⟨0, _, Run.run_of_halted 0 outlet halted⟩
  | false =>
      have decreases (world : World)
          (kept : world.Straight ∧ world.StandsBehind [] ∧ world.Mutes outlet)
          (running : world.machine.halted = false) :
          Run.Yields Run.step world
            (fun _ after => (after.Straight ∧ after.StandsBehind [] ∧ after.Mutes outlet) ∧
              Prod.Lex (· < ·) (· < ·) after.remaining world.remaining)
            fun _ _ => True := by
        obtain ⟨straight, standing, mutes⟩ := kept
        apply ((straight.step standing running).and (standing.step .nil mutes running)).mono
        · rintro _ after ⟨⟨still, smaller⟩, stands⟩
          exact ⟨⟨still, stands⟩, smaller⟩
        · exact fun _ _ _ => trivial
      have begins : (world.attach outlet).Straight := { straight with }
      obtain ⟨fuel, failure, executed, stops⟩ :=
        Run.steps_end (Prod.lex Nat.lt_wfRel Nat.lt_wfRel).wf World.remaining decreases
          ⟨begins, standing.attach outlet, World.mutes_attach outlet world⟩
      exact ⟨fuel, _, Run.run_of_stopped standing.builtin halted stops⟩

theorem run (straight : world.Straight) (standing : world.StandsBehind []) {fuel : Nat} {outlet : Outlet}
    {ended : Ended} (ran : Run.run fuel outlet world = some ended) : ended.world.Straight := by
  apply standing.run_keep ?_ ?_ straight ran
  · exact fun _ _ still => { still with }
  · intro world straight standing running
    exact (straight.step standing running).mono (fun _ _ still => still.1) fun _ _ still => still

end World.Straight

end TapeLang
