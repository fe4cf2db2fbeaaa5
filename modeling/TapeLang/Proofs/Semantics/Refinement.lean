import TapeLang.Proofs.Machine.Ending
import TapeLang.Proofs.Semantics.Flat
import TapeLang.Proofs.Stream.Calls

/-!
The machine carries out the meaning of its source. While it runs a program without commands, the machine
shows the configuration that the flat run is in; so from its initial state it ends as the bracket tree of
the source executes, one operator at a time, or goes on for ever when that does.
-/

namespace TapeLang

/-- The configuration that can be seen in a world, where the given bytes had been written before. -/
structure World.Shows (earlier : Bytes) (world : World) (config : Config) : Prop where
  cells : world.machine.cells = config.cells
  size : world.machine.tape.size = config.cells.length
  pointer : world.machine.pointer = config.pointer
  input : world.source = .ofBytes config.input
  history : world.machine.history.toList = config.output
  written : world.host.output = earlier ++ config.output

structure World.Tracks (earlier : Bytes) (program : List Instruction) (world : World)
    (config : Config) (ip : Nat) : Prop extends world.Shows earlier config where
  program : world.machine.program.toList = program
  ip : world.machine.ip = ip
  clean : world.machine.tape.Clean
  builtin : world.host.services.Builtin
  attached : ∃ channel, world.machine.attached = some (.direct channel) ∧ channel.Steady

def starvation : RuntimeFault := { cause := .inputEnded, rule := some "input" }

theorem World.Shows.unique {earlier : Bytes} {world : World} {first second : Config}
    (one : world.Shows earlier first) (other : world.Shows earlier second) : first = second := by
  apply Config.ext
  · exact one.cells.symm.trans other.cells
  · exact Int.ofNat.inj (one.pointer.symm.trans other.pointer)
  · exact Source.of_bytes_injective (one.input.symm.trans other.input)
  · exact one.history.symm.trans other.history

namespace World.Tracks

variable {earlier : Bytes} {program : List Instruction} {world : World} {config : Config} {ip : Nat}

theorem inside (tracks : world.Tracks earlier program config ip) :
    config.pointer < world.machine.tape.size := by
  rw [tracks.size]
  exact config.inside

theorem current (tracks : world.Tracks earlier program config ip) :
    world.machine.tape.cells.getD config.pointer 0 = config.current :=
  congrArg (List.getD · config.pointer 0) tracks.cells

theorem halted_eq (tracks : world.Tracks earlier program config ip) :
    world.machine.halted = decide (program.length ≤ ip) := by
  unfold Machine.halted
  rw [tracks.ip, ← tracks.program, Array.length_toList, decide_eq_decide]
  omega

theorem logStep (tracks : world.Tracks earlier program config ip) (instruction : Instruction) :
    Tracks earlier program { world with machine := world.machine.logStep instruction } config ip :=
  { tracks with }

theorem goTo (tracks : world.Tracks earlier program config ip) (next : Nat) :
    Tracks earlier program { world with machine := { world.machine with ip := next } } config next :=
  { tracks with ip := rfl }

theorem put (tracks : world.Tracks earlier program config ip) (value : UInt8) :
    Tracks earlier program (world.withTape (world.machine.tape.put config.pointer value))
      (config.put value) ip :=
  { tracks with
    cells := by
      change (world.machine.tape.put config.pointer value).cells = config.cells.set config.pointer value
      rw [Tape.cells_put]
      exact congrArg (List.set · config.pointer value) tracks.cells
    size := by
      change world.machine.tape.size = (config.cells.set config.pointer value).length
      rw [List.length_set, tracks.size]
    clean := Tape.clean_put tracks.clean tracks.inside value }

theorem emitted (tracks : world.Tracks earlier program config ip) {channel : Channel}
    (steady : channel.Steady) (bytes : Bytes) :
    Tracks earlier program ((world.kept bytes).called ((Outlet.direct channel).write bytes))
      { config with output := config.output ++ bytes } ip := by
  rw [Outlet.write, steady.write_eq]
  refine { tracks with history := ?_, written := ?_, attached := ⟨_, rfl, steady.write, steady.flush⟩ }
  · simp [World.called, World.record, World.kept, tracks.history]
  · have written := tracks.written
    unfold Host.output at written
    simp [World.called, World.record, World.kept, Host.output, written]

theorem flushed (tracks : world.Tracks earlier program config ip) {channel : Channel}
    (steady : channel.Steady) :
    Tracks earlier program (world.called (Outlet.direct channel).flush) config ip := by
  have still : ∃ other, (Outlet.direct channel).flush.stream = .direct other ∧ other.Steady := by
    cases able : channel.canFlush with
    | true =>
        rw [Outlet.flush, if_pos able, steady.flush_eq]
        exact ⟨_, rfl, steady.write, steady.flush⟩
    | false =>
        rw [Outlet.flush, if_neg (by simp [able])]
        exact ⟨channel, rfl, steady⟩
  rcases still with ⟨other, stream, calm⟩
  have written := World.output_record_flushes
    { world with machine := { world.machine with attached := some (Outlet.direct channel).flush.stream } }
    (Outlet.flush_events (.direct channel))
  exact
    { tracks with
      written := written.trans tracks.written
      attached := ⟨other, congrArg some stream, calm⟩ }

theorem afterRead (tracks : world.Tracks earlier program config ip) :
    match config.input with
    | [] => Run.byteOf world.source.take.1 = .error (.runtime starvation) ∧
        Tracks earlier program world.afterRead config ip
    | byte :: rest => Run.byteOf world.source.take.1 = .ok byte ∧
        Tracks earlier program world.afterRead { config with input := rest } ip := by
  have written : world.afterRead.host.output = world.host.output := by
    simp [World.afterRead, World.record, Host.output, tracks.input, Source.ofBytes, Source.prompt?]
  cases given : config.input with
  | nil =>
      constructor
      · rw [tracks.input, given]
        rfl
      · refine { tracks with input := ?_, written := written.trans tracks.written }
        change world.source.take.2 = _
        rw [tracks.input, given]
        rfl
  | cons byte rest =>
      constructor
      · rw [tracks.input, given]
        rfl
      · refine { tracks with input := ?_, written := written.trans tracks.written }
        change world.source.take.2 = _
        rw [tracks.input, given]
        rfl

end World.Tracks

namespace Run

variable {earlier : Bytes} {program : List Instruction} {world : World} {config : Config} {ip : Nat}

theorem yields_emit_tracks (tracks : world.Tracks earlier program config ip) (bytes : Bytes) :
    Yields (emit bytes) world
      (fun _ after => after.Tracks earlier program { config with output := config.output ++ bytes } ip)
      fun _ _ => False := by
  rcases tracks.attached with ⟨channel, attached, steady⟩
  have calm : (Outlet.direct channel).Steady := steady
  rw [yields_emit, attached]
  constructor
  · simp
  · intro outlet same
    cases same
    rw [yields_settle, (calm.write bytes).1]
    exact ⟨fun _ => tracks.emitted steady bytes, by simp⟩

theorem yields_flush_tracks (tracks : world.Tracks earlier program config ip) :
    Yields flush world (fun _ after => after.Tracks earlier program config ip) fun _ _ => False := by
  rcases tracks.attached with ⟨channel, attached, steady⟩
  have calm : (Outlet.direct channel).Steady := steady
  rw [yields_flush, attached]
  constructor
  · simp
  · intro outlet same
    cases same
    rw [yields_settle, calm.flush.1]
    exact ⟨fun _ => tracks.flushed steady, by simp⟩

theorem yields_read_byte_tracks (tracks : world.Tracks earlier program config ip) :
    Yields readByte world
      (fun byte after => ∃ rest, config.input = byte :: rest ∧
        after.Tracks earlier program { config with input := rest } ip)
      fun fault after => config.input = [] ∧ fault = .runtime starvation ∧
        after.Tracks earlier program config ip := by
  rw [yields_read_byte]
  apply (yields_flush_tracks tracks).mono ?_ fun _ _ => False.elim
  intro _ flushed still
  have read := still.afterRead
  cases given : config.input with
  | nil =>
      simp only [given] at read
      rw [read.1]
      constructor
      · simp
      · intro fault same
        cases same
        exact ⟨rfl, rfl, read.2⟩
  | cons byte rest =>
      simp only [given] at read
      rw [read.1]
      constructor
      · intro other same
        cases same
        exact ⟨rest, rfl, read.2⟩
      · simp

theorem yields_update_cell_tracks (tracks : world.Tracks earlier program config ip)
    (change : UInt8 → UInt8) :
    Yields (updateCell change) world
      (fun _ after => after.Tracks earlier program (config.put (change config.current)) ip)
      fun _ _ => False := by
  unfold Yields
  rw [update_cell_inside tracks.pointer tracks.inside, tracks.current]
  exact tracks.put _

theorem yields_write_cell_tracks (tracks : world.Tracks earlier program config ip) (byte : UInt8) :
    Yields (writeCell byte) world (fun _ after => after.Tracks earlier program (config.put byte) ip)
      fun _ _ => False := by
  unfold Yields
  rw [write_cell_inside tracks.pointer tracks.inside]
  exact tracks.put byte

theorem yields_read_cell_tracks (tracks : world.Tracks earlier program config ip) :
    Yields readCell world (fun cell after => cell = config.current ∧ after = world)
      fun _ _ => False := by
  unfold Yields
  rw [read_cell_inside tracks.pointer tracks.inside]
  exact ⟨tracks.current, rfl⟩

theorem yields_counted_tracks (tracks : world.Tracks earlier program config ip) (count : Nat)
    (kind : Counted) :
    Yields (execCounted count kind) world
      (fun _ after => after.Tracks earlier program (config.times count kind) ip) fun _ _ => False := by
  cases kind with
  | increment => exact yields_update_cell_tracks tracks _
  | decrement => exact yields_update_cell_tracks tracks _
  | shiftLeft =>
      rw [execCounted, shiftLeft, yields_modify_machine]
      refine { tracks with pointer := ?_ }
      dsimp only [Config.times]
      rw [tracks.pointer]
      split <;> omega
  | shiftRight =>
      have reach : (world.machine.pointer + count + 1).toNat = config.pointer + count + 1 := by
        rw [tracks.pointer]
        omega
      obtain ⟨cells, clean⟩ := Tape.grow_clean tracks.clean (config.pointer + count + 1)
      rw [execCounted, shiftRight, yields_modify_machine]
      dsimp only
      rw [reach]
      refine { tracks with cells := ?_, size := ?_, pointer := ?_, clean := clean }
      · rw [tracks.size] at cells
        exact cells.trans (congrArg (· ++ _) tracks.cells)
      · dsimp only [Config.times]
        rw [Tape.size_grow, tracks.size, List.length_append, List.length_replicate]
        omega
      · simp [Config.times, tracks.pointer]

theorem yields_exec_tracks (tracks : world.Tracks earlier program config ip)
    (well : WellFormed program) (plain : ∀ text, .command text ∉ program) {instruction : Instruction}
    (found : program[ip]? = some instruction) :
    Yields (exec instruction ip) world
      (fun next after => ∃ reached target, Flat.step program config ip = some (reached, target) ∧
        next = target ∧ after.Tracks earlier program reached ip)
      fun fault after => Flat.step program config ip = none ∧ fault = .runtime starvation ∧
        after.Tracks earlier program config ip := by
  cases instruction with
  | counted kind count =>
      rw [exec]
      apply (yields_counted_tracks tracks count kind).bind_sure
      intro _ after still
      refine ⟨config.times count kind, ip + 1, ?_, by simp, still⟩
      simp only [Flat.step, found]
  | output =>
      rw [exec]
      apply (yields_read_cell_tracks tracks).bind_sure
      intro cell middle read
      rcases read with ⟨rfl, rfl⟩
      apply (yields_emit_tracks tracks [config.current]).bind_sure
      intro _ after still
      refine ⟨config.emit, ip + 1, ?_, by simp, still⟩
      simp only [Flat.step, found]
  | input =>
      rw [exec, yields_bind]
      apply (yields_read_byte_tracks tracks).mono
      · intro byte read taken
        rcases taken with ⟨rest, given, still⟩
        apply (yields_write_cell_tracks still byte).bind_sure
        intro _ after written
        refine ⟨_, ip + 1, ?_, by simp, written⟩
        simp only [Flat.step, found, Config.read, given, Option.map_some]
      · intro fault after stopped
        rcases stopped with ⟨ended, rfl, still⟩
        exact ⟨by simp only [Flat.step, found, Config.read, ended, Option.map_none], rfl, still⟩
  | loopStart target =>
      obtain ⟨past, rfl, -⟩ := well.opening ip target found
      rw [exec]
      apply (yields_read_cell_tracks tracks).bind_sure
      intro cell middle read
      rcases read with ⟨rfl, rfl⟩
      refine ⟨config, if config.current = 0 then past else ip + 1, ?_, ?_, tracks⟩
      · simp only [Flat.step, found, Int.toNat_natCast]
      · split <;> simp
  | loopEnd start =>
      obtain ⟨first, rfl, -⟩ := well.closing ip start found
      rw [exec]
      apply (yields_read_cell_tracks tracks).bind_sure
      intro cell middle read
      rcases read with ⟨rfl, rfl⟩
      refine ⟨config, if config.current = 0 then ip + 1 else first, ?_, ?_, tracks⟩
      · simp only [Flat.step, found, Int.toNat_natCast]
      · split <;> simp
  | command text => exact absurd (List.mem_of_getElem? found) (plain text)
  | foreign text => exact absurd found (well.known ip text)

theorem yields_step_tracks (tracks : world.Tracks earlier program config ip)
    (well : WellFormed program) (plain : ∀ text, .command text ∉ program)
    (inside : ip < program.length) :
    Yields step world
      (fun _ after => ∃ reached target, Flat.step program config ip = some (reached, target) ∧
        after.Tracks earlier program reached target)
      fun fault after => Flat.step program config ip = none ∧ fault = .runtime starvation ∧
        after.Tracks earlier program config ip := by
  have found := List.getElem?_eq_getElem inside
  generalize program[ip] = instruction at found
  have fetched := world.machine.fetch_inside (tracks.program ▸ found)
  rw [← tracks.ip] at fetched
  rw [yields_step fetched, tracks.ip]
  apply (yields_exec_tracks (tracks.logStep instruction) well plain found).mono
  · intro next after executed
    rcases executed with ⟨reached, target, steps, rfl, still⟩
    exact ⟨reached, target, steps, still.goTo target⟩
  · intro fault after starved
    exact starved

/-- The steps of the machine come to what the flat run comes to, with the same fuel. -/
theorem yields_steps_tracks (fuel : Nat) (tracks : world.Tracks earlier program config ip)
    (well : WellFormed program) (plain : ∀ text, .command text ∉ program) :
    Yields (steps fuel) world
      (fun halted after =>
        if halted then ∃ final place, Flat.run program fuel config ip = some (.completed, final) ∧
          after.Tracks earlier program final place
        else Flat.run program fuel config ip = none)
      fun fault after => ∃ final place, Flat.run program fuel config ip = some (.starved, final) ∧
        fault = .runtime starvation ∧ after.Tracks earlier program final place := by
  -- one step of the machine for one step of the flat run, with the fuel of both the same
  induction fuel generalizing world config ip with
  | zero =>
      unfold Yields
      rw [steps_zero, tracks.halted_eq]
      by_cases past : program.length ≤ ip
      · rw [decide_eq_true past]
        exact ⟨config, ip, Flat.run_past 0 past, tracks⟩
      · rw [decide_eq_false past]
        exact if_neg past
  | succ fuel ih =>
      by_cases past : program.length ≤ ip
      · rw [yields_steps_of_halted fuel (tracks.halted_eq.trans (decide_eq_true past))]
        exact ⟨config, ip, Flat.run_past (fuel + 1) past, tracks⟩
      · have inside : ip < program.length := Nat.lt_of_not_le past
        rw [yields_steps_of_running fuel (tracks.halted_eq.trans (decide_eq_false past)),
          Flat.run_succ fuel inside]
        apply (yields_step_tracks tracks well plain inside).mono
        · intro _ after went
          rcases went with ⟨reached, target, stepped, still⟩
          rw [stepped]
          exact ih still
        · intro fault after stopped
          rcases stopped with ⟨starved, rfl, still⟩
          rw [starved]
          exact ⟨config, ip, rfl, rfl, still⟩

end Run

/-- The run ended as a run of a forest ends: without a fault, or at the end of the input. -/
def Ended.Ends (ended : Ended) : Ending → Prop
  | .completed => ended.fault = none
  | .starved => ∃ ip step, ended.fault = some (.runtime { starvation with ip, step })

theorem Ended.Ends.unique {ended : Ended} {first second : Ending} (one : ended.Ends first)
    (other : ended.Ends second) : first = second := by
  cases first <;> cases second <;> simp_all [Ended.Ends]

namespace Run

variable {earlier : Bytes} {program : List Instruction} {world : World} {config : Config} {ip : Nat}

theorem ending_shows (outlet : Outlet) (failure : Option Fault)
    (tracks : world.Tracks earlier program config ip) :
    (ending outlet failure world).world.Shows earlier config ∧
      (ending outlet failure world).fault = failure.map (reported world.machine) := by
  have flushes := yields_flush_tracks tracks
  unfold ending
  cases result : flush world with
  | error fault after => exact (flushes.of_error result).elim
  | ok value after => exact ⟨{ (flushes.of_ok result).toShows with }, rfl⟩

theorem run_shows (fuel : Nat) {channel : Channel}
    (tracks : (world.attach (.direct channel)).Tracks earlier program config ip)
    (well : WellFormed program) (plain : ∀ text, .command text ∉ program) :
    match Flat.run program fuel config ip with
    | none => run fuel (.direct channel) world = none
    | some (ending, final) => ∃ ended, run fuel (.direct channel) world = some ended ∧
        ended.Ends ending ∧ ended.world.Shows earlier final := by
  have builtin : world.host.services.Builtin := tracks.builtin
  have halted : world.machine.halted = decide (program.length ≤ ip) := tracks.halted_eq
  rw [run_eq fuel (.direct channel) builtin, halted]
  by_cases past : program.length ≤ ip
  · rw [Flat.run_past fuel past, decide_eq_true past]
    exact ⟨_, rfl, rfl, { tracks.toShows with }⟩
  · rw [decide_eq_false past]
    have stepped := yields_steps_tracks fuel tracks well plain
    cases result : steps fuel (world.attach (.direct channel)) with
    | ok stopped after =>
        cases stopped with
        | false =>
            have unfinished : Flat.run program fuel config ip = none := stepped.of_ok result
            rw [unfinished]
            rfl
        | true =>
            obtain ⟨final, place, ran, still⟩ := stepped.of_ok result
            obtain ⟨seen, fault⟩ := ending_shows (.direct channel) none still
            rw [ran]
            exact ⟨_, rfl, fault, seen⟩
    | error fault after =>
        obtain ⟨final, place, ran, rfl, still⟩ := stepped.of_error result
        obtain ⟨seen, fault⟩ := ending_shows (.direct channel) (some (.runtime starvation)) still
        rw [ran]
        exact ⟨_, rfl, ⟨_, _, fault⟩, seen⟩

theorem flat_run_of_run {fuel : Nat} {channel : Channel} {ended : Ended}
    (tracks : (world.attach (.direct channel)).Tracks earlier program config ip)
    (well : WellFormed program) (plain : ∀ text, .command text ∉ program)
    (ran : run fuel (.direct channel) world = some ended) :
    ∃ ending final, Flat.run program fuel config ip = some (ending, final) ∧ ended.Ends ending ∧
      ended.world.Shows earlier final := by
  have flat := run_shows fuel tracks well plain
  cases result : Flat.run program fuel config ip with
  | none =>
      rw [result] at flat
      cases flat.symm.trans ran
  | some outcome =>
      rcases outcome with ⟨ending, final⟩
      rw [result] at flat
      rcases flat with ⟨other, same, ends, seen⟩
      cases same.symm.trans ran
      exact ⟨ending, final, rfl, ends, seen⟩

end Run

theorem Machine.create_tracks {program : List Instruction} {name : String} {verbose : Bool}
    {size : Nat} (positive : 1 ≤ size) {machine : Machine}
    (created : Machine.create program name verbose size = .ok machine) {host : Host}
    (builtin : host.services.Builtin) {channel : Channel} (steady : channel.Steady) (input : Bytes) :
    (World.attach ⟨machine, .ofBytes input, host⟩ (.direct channel)).Tracks host.output program
      (.initial size positive input) 0 := by
  have enough : ¬(size : Int) < 1 := by omega
  rw [Machine.create, if_neg enough, Int.toNat_natCast] at created
  cases created
  exact {
    cells := Tape.cells_blank size
    size := by simp [World.attach, Tape.blank, Config.initial]
    pointer := rfl
    input := rfl
    history := rfl
    written := (List.append_nil _).symm
    program := by simp [World.attach]
    ip := rfl
    clean := Tape.clean_blank size
    builtin := builtin
    attached := ⟨channel, rfl, steady⟩ }

theorem forest_of_parse {source : Bytes} {file : String} {program : List Instruction}
    (accepted : parse source file .normal = .ok program) :
    ∃ forest, (∀ other, Tree.tokens other = Token.operators source ↔ other = forest) ∧
      program = Tree.flatten 0 (Tree.gather forest) ∧
      Tree.Every (·.atom.IsOperator) (Tree.gather forest) := by
  obtain ⟨forest, written, rfl⟩ := (parse_eq_ok_iff source file .normal program).mp accepted
  have scanned : (Token.scan Mode.normal.dialect 0 source).map (·.token) = Token.operators source :=
    Token.scan_plain_tokens 0 source
  refine ⟨forest, ?_, rfl, ?_⟩
  · intro other
    have built := (Tree.of_tokens_eq_ok_iff _ _).mpr written
    rw [← scanned, ← Tree.of_tokens_eq_ok_iff, built, Except.ok.injEq, eq_comm]
  · have operators : Tree.Every Atom.IsOperator forest := by
      apply Tree.every_of_tokens
      intro atom found
      rw [written, scanned] at found
      exact Token.is_operator_of_operators found
    exact Tree.Every.mono (fun _ gathered => gathered.atom) (Tree.every_gather operators)

/-- The machine completes a program from its initial state exactly when the bracket tree of the source
completes, is starved of input exactly when that is, and leaves the same cells, pointer, output and
input. It has no other end. -/
theorem compiled_run_iff_executes {source : Bytes} {file : String} {program : List Instruction}
    (accepted : parse source file .normal = .ok program) {size : Nat} (positive : 1 ≤ size)
    {name : String} {verbose : Bool} {machine : Machine}
    (created : Machine.create program name verbose size = .ok machine) {host : Host}
    (builtin : host.services.Builtin) {channel : Channel} (steady : channel.Steady) (input : Bytes) :
    ∃ forest : List (Tree Atom),
      (∀ other, Tree.tokens other = Token.operators source ↔ other = forest) ∧
      (∀ (ending : Ending) (final : Config),
        (∃ fuel ended, Run.run fuel (.direct channel) ⟨machine, .ofBytes input, host⟩ = some ended ∧
            ended.Ends ending ∧ ended.world.Shows host.output final) ↔
          Executes Config.act forest (.initial size positive input) ending final) ∧
      ∀ fuel ended, Run.run fuel (.direct channel) ⟨machine, .ofBytes input, host⟩ = some ended →
        ∃ ending final, ended.Ends ending ∧ ended.world.Shows host.output final := by
  obtain ⟨forest, unique, laid, operators⟩ := forest_of_parse accepted
  have well := WellFormed.of_parse accepted
  have plain := command_not_mem_of_parse_normal accepted
  have tracks := Machine.create_tracks positive created builtin steady input
  refine ⟨forest, unique, ?_, ?_⟩
  · intro ending final
    rw [← executes_gather, ← Flat.run_flatten_iff operators, ← laid]
    constructor
    · intro runs
      rcases runs with ⟨fuel, ended, ran, ends, seen⟩
      obtain ⟨other, reached, flat, endsToo, seenToo⟩ := Run.flat_run_of_run tracks well plain ran
      rw [ends.unique endsToo, seen.unique seenToo]
      exact ⟨fuel, flat⟩
    · intro runs
      rcases runs with ⟨fuel, ran⟩
      have flat := Run.run_shows fuel tracks well plain
      rw [ran] at flat
      exact ⟨fuel, flat⟩
  · intro fuel ended ran
    obtain ⟨ending, final, -, ends, seen⟩ := Run.flat_run_of_run tracks well plain ran
    exact ⟨ending, final, ends, seen⟩

def repeatedByte : Setup where
  program := [.input, .counted .shiftRight 1, .counted .increment 2, .loopStart (some 9),
    .counted .shiftLeft 1, .output, .counted .shiftRight 1, .counted .decrement 1, .loopEnd 3]
  furtherCells := 0
  source := .ofBytes [7]

/-- A loop that writes the byte it was given twice, on a tape of one cell that has to grow. -/
theorem repeated_byte_executes :
    ∃ (forest : List (Tree Atom)) (final : Config),
      Tree.tokens forest = Token.operators (Text.encode "in,>++[<.>-]") ∧
      Executes Config.act forest (.initial 1 (Nat.le_refl 1) [7]) .completed final ∧
      final.cells = [7, 0] ∧ final.pointer = 1 ∧ final.output = [7, 7] := by
  have accepted : parse (Text.encode "in,>++[<.>-]") "<string>" .normal = .ok repeatedByte.program := by
    apply parse_eq_ok_of_some
    decide +kernel
  have steady : Channel.Steady {} := ⟨fun _ => rfl, fun _ => rfl⟩
  obtain ⟨forest, unique, runs, ends⟩ := compiled_run_iff_executes accepted (Nat.le_refl 1)
    repeatedByte.create_machine (repeatedByte.builtin rfl) steady [7]
  have ran : (Run.run 40 (.direct {}) repeatedByte.world).map
      (fun ended => (ended.fault, ended.world.machine.cells, ended.world.machine.pointer,
        ended.world.machine.history.toList)) = some (none, [7, 0], 1, [7, 7]) := by
    decide +kernel
  obtain ⟨ended, result, shown⟩ := Option.map_eq_some_iff.mp ran
  simp only [Prod.mk.injEq] at shown
  rcases shown with ⟨fault, cells, pointer, history⟩
  have completed : ended.Ends .completed := fault
  obtain ⟨ending, final, other, seen⟩ := ends 40 ended result
  cases completed.unique other
  refine ⟨forest, final, (unique forest).mpr rfl, ?_, seen.cells.symm.trans cells, ?_,
    seen.history.symm.trans history⟩
  · exact (runs .completed final).mp ⟨40, ended, result, completed, seen⟩
  · exact Int.ofNat.inj (seen.pointer.symm.trans pointer)

end TapeLang
