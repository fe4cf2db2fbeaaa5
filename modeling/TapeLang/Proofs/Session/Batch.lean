import TapeLang.Proofs.Semantics.Sequence
import TapeLang.Proofs.Session.Safety
import TapeLang.Proofs.Text.Utf8

/-!
A program that is fed line by line does what it does at once. Where equal operators meet at the end of a
line the two programs differ, so they are compared through what they mean: each line executes its own
forest, and the program of all lines executes the forests one after another. What a line does is seen in a
shadow of the machine that writes straight to a channel, where the line has a tee.
-/

namespace TapeLang

def World.shadow (world : World) (channel : Channel) (trace : Array StreamEvent) : World :=
  world.beside world.machine.log (.direct channel) trace world.source

namespace Shadow

/-- What a machine that writes to a tee shares with its shadow. Everything that it writes enters its
history, is kept by the tee and is seen in the record of the shadow. -/
structure Cast (earlier : Bytes) (world : World) (channel : Channel) (trace : Array StreamEvent) :
    Prop where
  builtin : world.host.services.Builtin
  channel : channel.Steady
  attached : ∃ captured sink, world.machine.attached = some (.tee captured sink) ∧
    (Outlet.tee captured sink).Steady ∧ world.machine.history.toList = earlier ++ captured.toList
  trace : trace.toList.flatMap StreamEvent.output = world.machine.history.toList
  source : ∃ input, world.source = .ofBytes input

def Worlds (earlier : Bytes) (left right : World) : Prop :=
  ∃ channel trace, right = left.shadow channel trace ∧ Cast earlier left channel trace

variable {earlier : Bytes} {left right : World}

theorem Worlds.emit (related : Worlds earlier left right) (bytes : Bytes) :
    Run.Matched (fun _ _ => True) (Run.Shared fun _ => True) (Worlds earlier)
      (Run.emit bytes left) (Run.emit bytes right) := by
  rcases related with ⟨channel, trace, rfl, cast⟩
  rcases cast.attached with ⟨captured, sink, attached, steady, history⟩
  obtain ⟨calm, stays⟩ := steady.write bytes
  obtain ⟨after, stream⟩ := Outlet.tee_write captured sink bytes
  have written := cast.channel.write_eq bytes
  rw [Run.emit_eq, Run.emit_eq, attached]
  change Run.Matched _ _ _ (Run.settle _ _) (Run.settle ((Outlet.direct channel).write bytes) _)
  rw [Run.settle_eq, Run.settle_eq, calm, Outlet.write, written]
  refine .ok trivial ⟨{ channel with writes := channel.writes + 1 }, trace.push (.wrote bytes), ?_, ?_⟩
  · simp [World.shadow, World.beside, World.called, World.record, World.kept]
  · rw [stream] at stays
    refine ⟨cast.builtin, ⟨cast.channel.write, cast.channel.flush⟩, ⟨_, after, ?_, stays, ?_⟩, ?_,
      cast.source⟩
    · exact congrArg some stream
    · simp [World.called, World.record, World.kept, history]
    · simp [World.called, World.record, World.kept, cast.trace, StreamEvent.output]

theorem Worlds.flush (related : Worlds earlier left right) :
    ∃ leftAfter rightAfter, Run.flush left = .ok () leftAfter ∧
      Run.flush right = .ok () rightAfter ∧ Worlds earlier leftAfter rightAfter := by
  rcases related with ⟨channel, trace, rfl, cast⟩
  rcases cast.attached with ⟨captured, sink, attached, steady, history⟩
  have direct : (Outlet.direct channel).Steady := cast.channel
  obtain ⟨after, stream⟩ := Outlet.tee_flush captured sink
  obtain ⟨other, directStream⟩ := Outlet.direct_flush channel
  have calm : other.Steady := by
    have stays := direct.flush.2
    rw [directStream] at stays
    exact stays
  refine ⟨left.called (Outlet.tee captured sink).flush,
    (left.shadow channel trace).called (Outlet.direct channel).flush, ?_, ?_, ?_⟩
  · exact Run.flush_of_attached attached steady.flush.1
  · exact Run.flush_of_attached rfl direct.flush.1
  · refine ⟨other, trace ++ (Outlet.direct channel).flush.events.toArray, ?_, cast.builtin, calm,
      ⟨captured, after, congrArg some stream, stream ▸ steady.flush.2, history⟩, ?_, cast.source⟩
    · simp [World.shadow, World.beside, World.called, World.record, directStream]
    · rw [Array.toList_append, List.flatMap_append, cast.trace, Outlet.silent_flush, List.append_nil]
      rfl

theorem Worlds.afterRead (related : Worlds earlier left right) :
    Worlds earlier left.afterRead right.afterRead := by
  rcases related with ⟨channel, trace, rfl, cast⟩
  rcases cast.source with ⟨input, given⟩
  refine ⟨channel, trace.push (.read (Run.byteOf left.source.take.1).toOption), ?_,
    { cast with trace := ?_, source := ?_ }⟩
  · simp [World.shadow, World.beside, World.afterRead, World.record, given, Source.prompt?, Source.ofBytes]
  · rw [Array.toList_push, List.flatMap_append, cast.trace]
    simp [World.afterRead, World.record, StreamEvent.output]
  · rw [show left.afterRead.source = left.source.take.2 from rfl, given]
    cases input with
    | nil => exact ⟨[], rfl⟩
    | cons byte rest => exact ⟨rest, rfl⟩

theorem Worlds.readByte (related : Worlds earlier left right) :
    Run.Matched (· = ·) (Run.Shared fun _ => True) (Worlds earlier) (Run.readByte left)
      (Run.readByte right) := by
  obtain ⟨leftAfter, rightAfter, leftFlush, rightFlush, still⟩ := related.flush
  have after := still.afterRead
  have same : leftAfter.source = rightAfter.source := by
    rcases still with ⟨channel, trace, rfl, -⟩
    rfl
  rw [Run.read_byte_eq, Run.read_byte_eq, leftFlush, rightFlush]
  dsimp only
  rw [← same]
  cases Run.byteOf leftAfter.source.take.1 with
  | ok byte => exact .ok rfl after
  | error fault => exact .error ⟨rfl, trivial⟩ after

theorem lockstep : Run.Lockstep (Worlds earlier) fun _ => True where
  builtin := by
    rintro left right ⟨channel, trace, rfl, cast⟩
    exact ⟨cast.builtin, cast.builtin⟩
  files := by
    rintro left right ⟨channel, trace, rfl, cast⟩
    rfl
  tape := by
    rintro left right ⟨channel, trace, rfl, cast⟩
    rfl
  pointer := by
    rintro left right ⟨channel, trace, rfl, cast⟩
    rfl
  place := by
    rintro left right ⟨channel, trace, rfl, cast⟩ tape pointer
    exact ⟨channel, trace, rfl, { cast with }⟩
  event := by
    rintro left right ⟨channel, trace, rfl, cast⟩ rule details
    exact ⟨channel, trace, rfl, { cast with }⟩
  skip := by
    rintro left right ⟨channel, trace, rfl, cast⟩ path fault
    exact .ok trivial ⟨channel, trace, rfl, { cast with }⟩
  append := by
    rintro left right ⟨channel, trace, rfl, cast⟩ fragment
    exact ⟨channel, trace, rfl, { cast with }⟩
  emit related bytes := related.emit bytes
  ordinary _ _ := trivial
  program := by
    rintro left right ⟨channel, trace, rfl, cast⟩
    rfl
  ip := by
    rintro left right ⟨channel, trace, rfl, cast⟩
    rfl
  logStep := by
    rintro left right ⟨channel, trace, rfl, cast⟩ instruction
    exact ⟨channel, trace, rfl, { cast with }⟩
  goTo := by
    rintro left right ⟨channel, trace, rfl, cast⟩ ip
    exact ⟨channel, trace, rfl, { cast with }⟩
  read related := related.readByte
  flush related := related.flush
  attached := by
    rintro left right ⟨channel, trace, rfl, cast⟩
    rcases cast.attached with ⟨captured, sink, attached, -, -⟩
    exact ⟨.tee captured sink, .direct channel, attached, rfl⟩

end Shadow

structure World.Holds (world : World) (config : Config) : Prop where
  cells : world.machine.cells = config.cells
  size : world.machine.tape.size = config.cells.length
  pointer : world.machine.pointer = config.pointer
  input : world.source = .ofBytes config.input
  history : world.machine.history.toList = config.output
  clean : world.machine.tape.Clean

/-- A session between two lines: its machine waits behind a program without commands, and all output
came from lines. -/
structure Scene.Awaits (scene : Scene) (config : Config) : Prop extends scene.world.Holds config where
  output : scene.session.output.toList = config.output
  safe : scene.world.Safe
  idle : scene.world.machine.attached = none
  ip : scene.world.machine.ip = scene.program.length
  plain : ∀ text, .command text ∉ scene.program

theorem Ended.Ends.of_unnumbered {left right : Ended} {ending : Ending} (ends : right.Ends ending)
    (same : left.fault.map Fault.unnumbered = right.fault.map Fault.unnumbered) :
    left.Ends ending := by
  cases ending with
  | completed =>
      have none : right.fault = none := ends
      rw [none, Option.map_none, Option.map_eq_none_iff] at same
      exact same
  | starved =>
      obtain ⟨ip, step, raised⟩ := ends
      rw [raised, Option.map_some, Option.map_eq_some_iff] at same
      obtain ⟨fault, found, same⟩ := same
      cases fault with
      | runtime fault =>
          refine ⟨ip, fault.step, found.trans ?_⟩
          rcases fault with ⟨cause, other, rule, number⟩
          cases same
          rfl
      | _ => cases same

theorem Session.settle_holds (session : Session) {ended : Ended} {config : Config}
    (holds : ended.world.Holds config) :
    (session.settle ended).world.Holds config ∧
      (session.settle ended).session.output = session.output ++ ended.outlet.captured.toArray ∧
      (session.settle ended).outcome =
        match ended.fault with
        | none => .ok ended.outlet.captured
        | some fault => .error fault := by
  unfold settle
  cases ended.fault with
  | none => exact ⟨{ holds with }, rfl, rfl⟩
  | some fault =>
      dsimp only
      cases FailureReport.isWrapped ended.verdict <;> cases fault.ofProgram <;>
        exact ⟨{ holds with }, rfl, rfl⟩

def Scene.launch (scene : Scene) (forest : List (Tree Atom)) : World :=
  { scene.world with machine := scene.world.machine.append (Tree.compile forest) }

theorem Scene.launch_program (scene : Scene) (forest : List (Tree Atom)) :
    (scene.launch forest).machine.program.toList =
      scene.program ++ Tree.flatten scene.program.length (Tree.gather forest) := by
  rw [Tree.flatten_eq_relocate]
  exact Machine.append_program _ _

theorem Scene.feed_of_idle {scene : Scene} (idle : scene.world.machine.attached = none) {line : String}
    {forest : List (Tree Atom)}
    (accepted : parse (Text.encode line) Session.lineFile .command = .ok (Tree.compile forest))
    (fuel : Nat) (sink : Option Channel) :
    scene.session.feed fuel line sink scene.world =
      (Run.run fuel (.tee #[] sink) (scene.launch forest)).map
        (Session.settle { scene.session with inputs := scene.session.inputs.push line }) := by
  have released := FailureReport.release_idle scene.session.report
    (show (scene.launch forest).machine.attached = none from idle)
  unfold Session.feed
  rw [accepted]
  change Option.map _ (Session.run fuel _ _ (scene.launch forest)) = _
  rw [Session.run, released, Option.map_map]
  rfl

namespace Scene.Awaits

variable {scene : Scene} {config : Config} {source : Bytes} {forest : List (Tree Atom)}
  {sink : Option Channel} {fuel : Nat}

theorem launch_well_formed (awaits : scene.Awaits config) (forest : List (Tree Atom)) :
    WellFormed (scene.launch forest).machine.program.toList := by
  rw [scene.launch_program, Tree.flatten_eq_relocate]
  exact awaits.safe.wellFormed.append (.compile forest)

theorem launch_plain (awaits : scene.Awaits config)
    (written : Tree.tokens forest = Token.operators source) (text : String) :
    .command text ∉ (scene.launch forest).machine.program.toList := by
  rw [scene.launch_program, Tree.flatten_eq_relocate, List.mem_append, command_mem_relocate, not_or]
  exact ⟨awaits.plain text, command_not_mem_of_parse_normal (parse_of_operators written "") text⟩

/-- The shadow of a waiting machine is one that has written the earlier output at once. -/
theorem shadow_tracks (awaits : scene.Awaits config) (forest : List (Tree Atom)) :
    (((scene.launch forest).shadow {} #[.wrote config.output]).attach (.direct {})).Tracks []
      (scene.launch forest).machine.program.toList config scene.program.length where
  cells := awaits.cells
  size := awaits.size
  pointer := awaits.pointer
  input := awaits.input
  history := awaits.history
  written := by simp [World.shadow, World.beside, World.attach, Host.output]
  program := rfl
  ip := awaits.ip
  clean := awaits.clean
  builtin := awaits.safe.builtin
  attached := ⟨{}, rfl, fun _ => rfl, fun _ => rfl⟩

theorem shadow_worlds (awaits : scene.Awaits config) (forest : List (Tree Atom))
    (steady : (Outlet.tee #[] sink).Steady) :
    Shadow.Worlds config.output ((scene.launch forest).attach (.tee #[] sink))
      (((scene.launch forest).shadow {} #[.wrote config.output]).attach (.direct {})) := by
  refine ⟨{}, #[.wrote config.output], rfl, awaits.safe.builtin, ⟨fun _ => rfl, fun _ => rfl⟩,
    ⟨#[], sink, rfl, steady, awaits.history.trans (List.append_nil _).symm⟩, ?_, config.input,
    awaits.input⟩
  exact (List.append_nil _).trans awaits.history.symm

theorem run (awaits : scene.Awaits config) (written : Tree.tokens forest = Token.operators source)
    (steady : (Outlet.tee #[] sink).Steady) {ended : Ended}
    (ran : Run.run fuel (.tee #[] sink) (scene.launch forest) = some ended) :
    ∃ ending final, Executes Config.act forest config ending final ∧ ended.Ends ending ∧
      ended.world.Holds final ∧ final.output = config.output ++ ended.outlet.captured ∧
      ended.world.machine.program = (scene.launch forest).machine.program := by
  -- The shadow takes the same steps, and where they lead is known from the flat run.
  have coupled := Shadow.lockstep.run (awaits.shadow_worlds forest steady) fuel
  rw [ran] at coupled
  generalize shadowed : Run.run fuel (.direct {}) _ = result at coupled
  cases coupled with
  | @some _ other coupled =>
      obtain ⟨ending, final, place, flat, ends, reached⟩ := Run.run_tracks (awaits.shadow_tracks forest)
        (awaits.launch_well_formed forest) (awaits.launch_plain written) shadowed
      rw [scene.launch_program] at flat
      have executes := Flat.executes_of_run_behind (operators_of_tokens written) flat
      rw [executes_gather] at executes
      obtain ⟨channel, trace, same, cast⟩ := coupled.worlds
      rw [same] at reached
      obtain ⟨captured, sink, attached, -, history⟩ := cast.attached
      have outlet : ended.outlet = .tee captured sink := Option.some.inj attached
      refine ⟨ending, final, executes, ends.of_unnumbered coupled.fault, ?_, ?_,
        Array.toList_inj.mp reached.program⟩
      · exact ⟨reached.cells, reached.size, reached.pointer, reached.input, reached.history,
          reached.clean⟩
      · rw [outlet]
        exact reached.history.symm.trans history

theorem settle (awaits : scene.Awaits config) (written : Tree.tokens forest = Token.operators source)
    (steady : (Outlet.tee #[] sink).Steady) {ended : Ended}
    (ran : Run.run fuel (.tee #[] sink) (scene.launch forest) = some ended) (quiet : ended.fault = none)
    {final : Config} (holds : ended.world.Holds final)
    (program : ended.world.machine.program = (scene.launch forest).machine.program) {session : Session}
    (total : (session.settle ended).session.output.toList = final.output) :
    Scene.Awaits ⟨(session.settle ended).session, (session.settle ended).world⟩ final := by
  have accepted := parse_of_operators written ""
  have nulFree : NulFree (Tree.compile forest) := by
    intro text found
    exact absurd found (command_not_mem_of_parse_normal accepted text)
  have safe : (scene.launch forest).Safe := awaits.safe.append accepted nulFree
  obtain ⟨endSafe, detached, halts, -⟩ := Run.run_safe safe awaits.idle steady ran
  have settled : (session.settle ended).world.machine = ended.world.machine ∧
      (session.settle ended).world.host.services = ended.world.host.services ∧
      (session.settle ended).world.source = ended.world.source := by
    unfold Session.settle
    rw [quiet]
    exact ⟨rfl, rfl, rfl⟩
  obtain ⟨machine, services, source⟩ := settled
  refine
    { (session.settle_holds holds).1 with
      output := total
      safe := endSafe.of_machine machine services (source ▸ endSafe.source)
      idle := machine ▸ detached
      ip := ?_
      plain := ?_ }
  · rw [Scene.program, machine, Array.length_toList]
    exact endSafe.ip_of_halted (halts quiet)
  · rw [Scene.program, machine, program]
    exact awaits.launch_plain written

/-- A line without markers executes its own forest. When it completes the session waits again. -/
theorem feed (awaits : scene.Awaits config) {line : String}
    (unmarked : Token.marker ∉ Text.encode line)
    (written : Tree.tokens forest = Token.operators (Text.encode line))
    (steady : (Outlet.tee #[] sink).Steady) {fed : Fed}
    (ran : scene.session.feed fuel line sink scene.world = some fed) :
    ∃ final, fed.world.Holds final ∧ fed.session.output.toList = final.output ∧
      ((Executes Config.act forest config .completed final ∧ (∃ bytes, fed.outcome = .ok bytes) ∧
          Scene.Awaits ⟨fed.session, fed.world⟩ final) ∨
        (Executes Config.act forest config .starved final ∧
          ∃ fault, fed.outcome = .error fault ∧ fault.Starves)) := by
  have accepted : parse (Text.encode line) Session.lineFile .command = .ok (Tree.compile forest) :=
    (parse_unmarked_iff unmarked _ _ _).mpr ⟨forest, written, rfl⟩
  rw [Scene.feed_of_idle awaits.idle accepted] at ran
  obtain ⟨ended, went, rfl⟩ := Option.map_eq_some_iff.mp ran
  obtain ⟨ending, final, executes, ends, holds, output, program⟩ := awaits.run written steady went
  generalize taken : { scene.session with inputs := scene.session.inputs.push line } = session
  have earlier : session.output = scene.session.output := by rw [← taken]
  obtain ⟨shown, kept, outcome⟩ := session.settle_holds holds
  have total : (session.settle ended).session.output.toList = final.output := by
    rw [kept, earlier, Array.toList_append, awaits.output, output]
  refine ⟨final, shown, total, ?_⟩
  cases ending with
  | starved =>
      obtain ⟨ip, step, raised⟩ := ends
      rw [raised] at outcome
      exact .inr ⟨executes, _, outcome, rfl⟩
  | completed =>
      have quiet : ended.fault = none := ends
      rw [quiet] at outcome
      exact .inl ⟨executes, ⟨_, outcome⟩, awaits.settle written steady went quiet holds program total⟩

end Scene.Awaits

theorem Scene.Fresh.awaits {scene : Scene} (fresh : scene.Fresh) (empty : scene.program = [])
    {input : Bytes} (given : scene.world.source = .ofBytes input) :
    ∃ (size : Nat) (positive : 1 ≤ size), scene.world.machine.tape.size = size ∧
      scene.Awaits (.initial size positive input) := by
  rcases fresh.created with ⟨file, verbose, tapeSize, created⟩
  have enough : ¬tapeSize < 1 := by
    intro small
    rw [Machine.create, if_pos small] at created
    cases created
  obtain ⟨size, rfl⟩ : ∃ size : Nat, tapeSize = size := ⟨tapeSize.toNat, by omega⟩
  have positive : 1 ≤ size := by omega
  have calm : Channel.Steady {} := ⟨fun _ => rfl, fun _ => rfl⟩
  have tracks := Machine.create_tracks positive created fresh.builtin calm input
  have nulFree : NulFree scene.program := by
    rw [empty]
    intro text found
    cases found
  have sound := fresh.sound nulFree
  refine ⟨size, positive, tracks.size.trans List.length_replicate,
    { cells := tracks.cells
      size := tracks.size
      pointer := tracks.pointer
      input := given
      history := tracks.history
      clean := tracks.clean
      output := ?_
      safe := sound.safe scene.world.source (given ▸ Source.regular_of_bytes input)
      idle := sound.idle
      ip := ?_
      plain := ?_ }⟩
  · rw [fresh.session]
    rfl
  · rw [empty]
    exact tracks.ip
  · rw [empty]
    exact fun _ => List.not_mem_nil

inductive Scene.Takes : Scene → List String → Scene → Prop where
  | nil (scene : Scene) : Takes scene [] scene
  | cons {scene after : Scene} {line : String} {lines : List String} {sink : Option Channel}
      {fuel : Nat} {fed : Fed} {bytes : Bytes} (steady : (Outlet.tee #[] sink).Steady)
      (ran : scene.session.feed fuel line sink scene.world = some fed)
      (succeeds : fed.outcome = .ok bytes) (later : Takes ⟨fed.session, fed.world⟩ lines after) :
      Takes scene (line :: lines) after

structure Ended.Leaves (earlier : Bytes) (ended : Ended) (scene : Scene) : Prop where
  cells : ended.world.machine.cells = scene.world.machine.cells
  size : ended.world.machine.tape.size = scene.world.machine.tape.size
  pointer : ended.world.machine.pointer = scene.world.machine.pointer
  output : ended.world.host.output = earlier ++ scene.session.output.toList
  input : ended.world.source = scene.world.source

def Session.PlainLine (line : String) : Prop :=
  '#' ∉ line.toList ∧ ∃ fragment, parse (Text.encode line) Session.lineFile .command = .ok fragment

theorem Session.PlainLine.unmarked {line : String} (plain : Session.PlainLine line) :
    Token.marker ∉ Text.encode line :=
  Text.not_mem_encode (by decide) plain.1

theorem Session.PlainLine.forest {line : String} (plain : Session.PlainLine line) :
    ∃ forest, Tree.tokens forest = Token.operators (Text.encode line) := by
  obtain ⟨fragment, accepted⟩ := plain.2
  obtain ⟨forest, written, -⟩ := (parse_unmarked_iff plain.unmarked _ _ _).mp accepted
  exact ⟨forest, written⟩

def Tree.OfLines (forest : List (Tree Atom)) (lines : List String) : Prop :=
  Tree.tokens forest = Token.operators (Text.encode (String.join lines))

namespace Tree.OfLines

variable {front back : List (Tree Atom)} {first second lines : List String}

theorem append (leads : OfLines front first) (follows : OfLines back second) :
    OfLines (front ++ back) (first ++ second) := by
  unfold OfLines at leads follows ⊢
  rw [tokens_append, leads, follows, Text.encode_join, Text.encode_join, Text.encode_join,
    List.flatMap_append, Token.operators_append]

theorem single {line : String} (written : tokens front = Token.operators (Text.encode line)) :
    OfLines front [line] := by
  unfold OfLines
  rw [written, Text.encode_join, List.flatMap_singleton]

theorem of_plain (plain : ∀ line ∈ lines, Session.PlainLine line) : ∃ forest, OfLines forest lines := by
  induction lines with
  | nil => exact ⟨[], rfl⟩
  | cons line rest ih =>
      obtain ⟨first, written⟩ := (plain line List.mem_cons_self).forest
      obtain ⟨later, follows⟩ := ih fun other found => plain other (List.mem_cons_of_mem line found)
      exact ⟨first ++ later, (single written).append follows⟩

end Tree.OfLines

theorem Session.unmarked_join {lines : List String} (plain : ∀ line ∈ lines, PlainLine line) :
    Token.marker ∉ Text.encode (String.join lines) := by
  rw [Text.encode_join, List.mem_flatMap]
  rintro ⟨line, found, marked⟩
  exact (plain line found).unmarked marked

/-- Lines that were taken execute their forests one after another, and the session waits behind them. -/
theorem Scene.Takes.executes {start scene : Scene} {lines : List String}
    (takes : start.Takes lines scene) {config : Config} (awaits : start.Awaits config)
    (plain : ∀ line ∈ lines, Session.PlainLine line) :
    ∃ forest final, Tree.OfLines forest lines ∧
      Executes Config.act forest config .completed final ∧ scene.Awaits final := by
  induction takes generalizing config with
  | nil => exact ⟨[], config, rfl, .nil config, awaits⟩
  | cons steady ran succeeds _ ih =>
      have here := plain _ List.mem_cons_self
      obtain ⟨first, written⟩ := here.forest
      obtain ⟨middle, -, -, ⟨executes, -, waits⟩ | ⟨-, fault, failed, -⟩⟩ :=
        awaits.feed here.unmarked written steady ran
      · obtain ⟨later, final, follows, executesLater, waitsLater⟩ :=
          ih waits fun other found => plain other (List.mem_cons_of_mem _ found)
        exact ⟨first ++ later, final, (Tree.OfLines.single written).append follows,
          executes.append executesLater, waitsLater⟩
      · rw [succeeds] at failed
        cases failed

theorem Ended.Leaves.of_shows {earlier : Bytes} {ended : Ended} {scene : Scene} {config : Config}
    (shows : ended.world.Shows earlier config) (holds : scene.world.Holds config)
    (output : scene.session.output.toList = config.output) : ended.Leaves earlier scene where
  cells := shows.cells.trans holds.cells.symm
  size := shows.size.trans holds.size.symm
  pointer := shows.pointer.trans holds.pointer.symm
  output := by rw [shows.written, output]
  input := shows.input.trans holds.input.symm

/-- The lines make one program, and a machine of the same size that runs it at once leaves what feeding them
one after another leaves: it completes when all lines are taken, and is starved of input when a line is the
first to fail, which can have no other reason. -/
theorem lines_run_as_one_program {start : Scene} (fresh : start.Fresh) (empty : start.program = [])
    {input : Bytes} (given : start.world.source = .ofBytes input) {lines : List String}
    (plain : ∀ line ∈ lines, Session.PlainLine line) :
    ∃ program,
      (∀ file mode, parse (Text.encode (String.join lines)) file mode = .ok program) ∧
      ∀ (file : String) (verbose : Bool) (machine : Machine) (host : Host) (channel : Channel),
        Machine.create program file verbose start.world.machine.tape.size = .ok machine →
        host.services.Builtin → channel.Steady →
        (∀ scene, start.Takes lines scene →
          ∃ fuel ended, Run.run fuel (.direct channel) ⟨machine, .ofBytes input, host⟩ = some ended ∧
            ended.fault = none ∧ ended.Leaves host.output scene) ∧
        ∀ front line back scene sink fuel fed fault, lines = front ++ line :: back →
          start.Takes front scene → (Outlet.tee #[] sink).Steady →
          scene.session.feed fuel line sink scene.world = some fed → fed.outcome = .error fault →
          fault.Starves ∧
            ∃ fuel ended raised,
              Run.run fuel (.direct channel) ⟨machine, .ofBytes input, host⟩ = some ended ∧
                ended.fault = some raised ∧ raised.Starves ∧
                ended.Leaves host.output ⟨fed.session, fed.world⟩ := by
  obtain ⟨size, positive, sized, awaits⟩ := fresh.awaits empty given
  obtain ⟨forest, written⟩ := Tree.OfLines.of_plain plain
  refine ⟨Tree.compile forest, ?_, ?_⟩
  · intro file mode
    exact (parse_unmarked_iff (Session.unmarked_join plain) file mode _).mpr ⟨forest, written, rfl⟩
  · intro file verbose machine host channel created builtin steady
    rw [sized] at created
    constructor
    · intro scene takes
      obtain ⟨other, final, spelled, executes, waits⟩ := takes.executes awaits plain
      cases Tree.tokens_injective (written.trans spelled.symm)
      obtain ⟨fuel, ended, ran, ends, shown⟩ :=
        run_of_executes written positive created builtin steady executes
      exact ⟨fuel, ended, ran, ends, .of_shows shown waits.toHolds waits.output⟩
    · intro front line back scene sink fuel fed fault parts takes quiet ran failed
      subst parts
      have here : Session.PlainLine line := plain line (by simp)
      obtain ⟨leading, middle, leads, executes, waits⟩ :=
        takes.executes awaits fun other found => plain other (List.mem_append_left _ found)
      obtain ⟨own, writes⟩ := here.forest
      obtain ⟨final, holds, output, ⟨-, ⟨bytes, succeeds⟩, -⟩ | ⟨starved, raised, same, starves⟩⟩ :=
        waits.feed here.unmarked writes quiet ran
      · rw [succeeds] at failed
        cases failed
      · cases same.symm.trans failed
        -- What stands behind the line that failed belongs to the program but is never reached.
        obtain ⟨rest, follows⟩ : ∃ rest, Tree.OfLines rest back := Tree.OfLines.of_plain
          fun other found => plain other (List.mem_append_right _ (List.mem_cons_of_mem line found))
        have spelled : Tree.OfLines (leading ++ (own ++ rest)) (front ++ ([line] ++ back)) :=
          leads.append ((Tree.OfLines.single writes).append follows)
        cases Tree.tokens_injective (written.trans spelled.symm)
        obtain ⟨fuel, ended, ran, ⟨ip, step, left⟩, shown⟩ :=
          run_of_executes written positive created builtin steady
            (executes.append starved.append_of_starved)
        exact ⟨starves, fuel, ended, _, ran, left, rfl, .of_shows shown holds output⟩

def narrowSession : Setup where
  file := Session.lineFile
  furtherCells := 0
  source := .ofBytes [5]

/-- Two increments that meet where lines meet are one instruction of the whole program, which is starved of
input where the last line was. -/
theorem increments_of_two_lines_run_as_one :
    ∃ (start scene : Scene) (fed : Fed) (machine : Machine) (fuel : Nat) (ended : Ended) (raised : Fault),
      start.Fresh ∧ start.program = [] ∧ start.world.source = .ofBytes [5] ∧
      start.Takes ["a+", "+.>"] scene ∧
      scene.program = [.counted .increment 1, .counted .increment 1, .output, .counted .shiftRight 1] ∧
      scene.session.feed 9 ",," none scene.world = some fed ∧ fed.session.output.toList = [2] ∧
      Machine.create
          [.counted .increment 2, .output, .counted .shiftRight 1, .input, .input] "whole" true 1 =
        .ok machine ∧
      Run.run fuel (.direct {}) ⟨machine, .ofBytes [5], start.world.host⟩ = some ended ∧
      ended.fault = some raised ∧ raised.Starves ∧ ended.Leaves [] ⟨fed.session, fed.world⟩ ∧
      ended.world.machine.cells = [2, 5] := by
  have fresh : narrowSession.scene.Fresh := narrowSession.fresh rfl (.inl rfl)
  have plain : ∀ line ∈ ["a+", "+.>", ",,"], Session.PlainLine line := by
    have accepted : ∀ line ∈ ["a+", "+.>", ",,"], '#' ∉ line.toList ∧
        (parse (Text.encode line) Session.lineFile .command).toOption.isSome = true := by
      decide +kernel
    intro line found
    obtain ⟨unmarked, parsed⟩ := accepted line found
    obtain ⟨fragment, parsed⟩ := Option.isSome_iff_exists.mp parsed
    exact ⟨unmarked, fragment, parse_eq_ok_of_some parsed⟩
  have shown : ((narrowSession.scene.session.feed 9 "a+" none narrowSession.scene.world).bind fun first =>
      (first.session.feed 9 "+.>" none first.world).bind fun second =>
        (second.session.feed 9 ",," none second.world).map fun third =>
          ([first.outcome.toOption, second.outcome.toOption, third.outcome.toOption],
            second.world.machine.program.toList, third.session.output.toList,
            third.world.machine.cells)) =
      some ([some [], some [2], none],
        [.counted .increment 1, .counted .increment 1, .output, .counted .shiftRight 1], [2], [2, 5]) := by
    decide +kernel
  obtain ⟨first, ranFirst, shown⟩ := Option.bind_eq_some_iff.mp shown
  obtain ⟨second, ranSecond, shown⟩ := Option.bind_eq_some_iff.mp shown
  obtain ⟨third, ranThird, shown⟩ := Option.map_eq_some_iff.mp shown
  simp only [Prod.mk.injEq, List.cons.injEq] at shown
  obtain ⟨⟨firstTaken, secondTaken, thirdFailed, -⟩, grown, output, cells⟩ := shown
  have taken {fed : Fed} {bytes : Bytes} (found : fed.outcome.toOption = some bytes) :
      fed.outcome = .ok bytes := by
    cases outcome : fed.outcome <;> simp_all [Except.toOption]
  have quiet : (Outlet.tee #[] none).Steady := trivial
  have takes : narrowSession.scene.Takes ["a+", "+.>"] ⟨second.session, second.world⟩ :=
    .cons quiet ranFirst (taken firstTaken) (.cons quiet ranSecond (taken secondTaken) (.nil _))
  obtain ⟨program, parsed, runs⟩ := lines_run_as_one_program fresh rfl rfl plain
  have whole : parse (Text.encode (String.join ["a+", "+.>", ",,"])) "whole" .normal =
      .ok [.counted .increment 2, .output, .counted .shiftRight 1, .input, .input] := by
    apply parse_eq_ok_of_some
    decide +kernel
  cases (parsed "whole" .normal).symm.trans whole
  obtain ⟨fault, failed⟩ : ∃ fault, third.outcome = .error fault := by
    cases outcome : third.outcome with
    | ok bytes => simp [outcome, Except.toOption] at thirdFailed
    | error fault => exact ⟨fault, rfl⟩
  obtain ⟨-, fuel, ended, raised, ran, left, starves, leaves⟩ :=
    (runs "whole" true _ _ {} rfl fresh.builtin ⟨fun _ => rfl, fun _ => rfl⟩).2 ["a+", "+.>"] ",," []
      ⟨second.session, second.world⟩ none 9 third fault rfl takes quiet ranThird failed
  exact ⟨_, ⟨second.session, second.world⟩, third, _, fuel, ended, raised, fresh, rfl, rfl, takes, grown,
    ranThird, output, rfl, ran, left, starves, leaves, leaves.cells.trans cells⟩

end TapeLang
