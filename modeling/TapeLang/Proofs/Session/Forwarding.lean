import TapeLang.Proofs.Machine.Outcome
import TapeLang.Proofs.Machine.Writing
import TapeLang.Proofs.Session.Keyboard

/-!
The sink of a line. A session puts a tee between its machine and the sink. When the sink can be flushed, this
makes no difference: a line that is fed comes to the same as its program does when it is appended and run on
the sink itself, however the calls on the sink fail. A sink without a flush is left alone by a run, but a tee
insists; so every line that has something to run then fails.
-/

namespace TapeLang

namespace Outlet

inductive Forwards : Outlet → Outlet → Prop where
  | sink (captured : Array UInt8) {channel : Channel} (able : channel.canFlush = true) :
      Forwards (.tee captured (some channel)) (.direct channel)

inductive Insists : Outlet → Prop where
  | sink (captured : Array UInt8) {channel : Channel} (unable : channel.canFlush = false) :
      Insists (.tee captured (some channel))

inductive Idle : Outlet → Prop where
  | channel {channel : Channel} (unable : channel.canFlush = false) : Idle (.direct channel)

end Outlet

theorem Channel.can_flush_write (channel : Channel) (bytes : Bytes) :
    (channel.write bytes).stream.canFlush = channel.canFlush := by
  rw [(channel.write_called bytes).2.2]

theorem Channel.can_flush_flush (channel : Channel) : channel.flush.stream.canFlush = channel.canFlush := by
  unfold flush
  cases channel.flushFault channel.flushes <;> rfl

structure Called.Alike (streams : Outlet → Outlet → Prop) (left right : Called Outlet) : Prop where
  fault : left.fault = right.fault
  events : left.events = right.events
  streams : streams left.stream right.stream

namespace Outlet

variable {left right : Outlet}

theorem Forwards.write (forwards : left.Forwards right) (bytes : Bytes) :
    Called.Alike Forwards (left.write bytes) (right.write bytes) := by
  cases forwards with
  | @sink captured channel able =>
      exact ⟨rfl, rfl, .sink _ ((channel.can_flush_write bytes).trans able)⟩

theorem Forwards.flush (forwards : left.Forwards right) :
    Called.Alike Forwards left.flush right.flush := by
  cases forwards with
  | @sink captured channel able =>
      simp only [Outlet.flush, able, if_true]
      exact ⟨rfl, rfl, .sink _ (channel.can_flush_flush.trans able)⟩

theorem Insists.write (insists : left.Insists) (bytes : Bytes) : (left.write bytes).stream.Insists := by
  cases insists with
  | @sink captured channel unable => exact .sink _ ((channel.can_flush_write bytes).trans unable)

theorem Insists.flush (insists : left.Insists) :
    left.flush.stream.Insists ∧ left.flush.fault = some .cannotFlush := by
  cases insists with
  | @sink captured channel unable =>
      simp only [Outlet.flush, unable, Bool.false_eq_true, if_false]
      exact ⟨.sink _ unable, trivial⟩

theorem Idle.write (idle : left.Idle) (bytes : Bytes) : (left.write bytes).stream.Idle := by
  cases idle with
  | @channel channel unable => exact .channel ((channel.can_flush_write bytes).trans unable)

theorem Idle.flush (idle : left.Idle) : left.flush.stream.Idle ∧ left.flush.fault = none := by
  cases idle with
  | @channel channel unable =>
      simp only [Outlet.flush, unable, Bool.false_eq_true, if_false]
      exact ⟨.channel unable, trivial⟩

end Outlet

def World.Through (kind : Outlet → Prop) (world : World) : Prop :=
  ∃ outlet, world.machine.attached = some outlet ∧ kind outlet

namespace Run

/-- A kind of outlet that no call changes stays attached throughout a run. -/
theorem primitives_keep_through {kind : Outlet → Prop}
    (write : ∀ {outlet : Outlet}, kind outlet → ∀ bytes, kind (outlet.write bytes).stream)
    (flush : ∀ {outlet : Outlet}, kind outlet → kind outlet.flush.stream) :
    PrimitivesKeep (World.Through kind) where
  machine := by
    rintro world machine ⟨outlet, attached, same⟩ outside
    exact ⟨outlet, outside.attached.trans attached, same⟩
  remark _ _ through := through
  register through _ := through
  emit := by
    rintro bytes world ⟨outlet, attached, same⟩
    rw [yields_emit, attached]
    refine ⟨nofun, ?_⟩
    intro _ found
    cases found
    rw [yields_settle]
    exact ⟨fun _ => ⟨_, rfl, write same bytes⟩, fun _ _ => ⟨_, rfl, write same bytes⟩⟩
  read := by
    rintro world ⟨outlet, attached, same⟩
    rw [yields_read_byte, yields_flush, attached]
    refine ⟨nofun, ?_⟩
    intro _ found
    cases found
    rw [yields_settle]
    have flushed (called : World) (still : called.machine.attached = some outlet.flush.stream) :
        called.afterRead.Through kind := ⟨_, still, flush same⟩
    exact ⟨fun _ => ⟨fun _ _ => flushed _ rfl, fun _ _ => flushed _ rfl⟩, fun _ _ => ⟨_, rfl, flush same⟩⟩

/-- A run through a tee whose sink has no flush fails, whatever its program came to. -/
theorem run_insisting {fuel : Nat} {outlet : Outlet} {world : World} {ended : Ended}
    (builtin : world.host.services.Builtin) (insists : outlet.Insists)
    (running : world.machine.halted = false) (ran : run fuel outlet world = some ended) :
    ended.fault = some .cannotFlush := by
  obtain ⟨failure, executed, stops, rfl⟩ := ending_of_builtin builtin ran running
  have primitives : PrimitivesKeep (World.Through Outlet.Insists) :=
    primitives_keep_through Outlet.Insists.write fun insists => insists.flush.1
  have begins : (world.attach outlet).Through Outlet.Insists := ⟨outlet, rfl, insists⟩
  obtain ⟨last, attached, still⟩ := primitives.stopped begins stops
  rw [(ending_outcome outlet failure executed).2, World.flushFault, attached, Option.bind_some,
    still.flush.2, Option.some_or]

theorem run_idle {fuel : Nat} {outlet : Outlet} {world : World} {ended : Ended}
    (builtin : world.host.services.Builtin) (idle : outlet.Idle)
    (running : world.machine.halted = false) (ran : run fuel outlet world = some ended) :
    ended.fault ≠ some .cannotFlush := by
  obtain ⟨failure, executed, stops, rfl⟩ := ending_of_builtin builtin ran running
  have primitives : PrimitivesKeep (World.Through Outlet.Idle) :=
    primitives_keep_through Outlet.Idle.write fun idle => idle.flush.1
  have begins : (world.attach outlet).Through Outlet.Idle := ⟨outlet, rfl, idle⟩
  obtain ⟨last, attached, still⟩ := primitives.stopped begins stops
  rw [(ending_outcome outlet failure executed).2, World.flushFault, attached, Option.bind_some,
    still.flush.2, Option.none_or]
  -- whatever a write raised is reported as a fault of the program
  intro raised
  obtain ⟨fault, -, same⟩ := Option.map_eq_some_iff.mp raised
  have ours := reported_of_program executed.machine fault
  rw [same] at ours
  cases ours

end Run

structure Ended.Alike (left right : Ended) : Prop where
  fault : left.fault = right.fault
  delivered : left.world.host.delivered = right.world.host.delivered

namespace Forwarding

/-- A machine that writes through a tee, beside one that writes to the sink. Only flushes may have been
recorded for one of them and not for the other. -/
def Worlds (left right : World) : Prop :=
  ∃ other trace, left.host.services.Builtin ∧ left.Through (·.Forwards other) ∧
    trace.toList.flatMap StreamEvent.delivered = left.host.delivered ∧
    right = left.beside left.machine.log other trace left.source

variable {left right : World}

theorem Worlds.delivered (related : Worlds left right) : left.host.delivered = right.host.delivered := by
  rcases related with ⟨other, trace, -, -, delivered, rfl⟩
  exact delivered.symm

theorem settle {other : Outlet} {trace : Array StreamEvent} (builtin : left.host.services.Builtin)
    (delivered : trace.toList.flatMap StreamEvent.delivered = left.host.delivered)
    {called likewise : Called Outlet} (alike : called.Alike Outlet.Forwards likewise) :
    Run.Matched (fun _ _ => True) (Run.Shared fun _ => True) Worlds (Run.settle called left)
      (Run.settle likewise (left.beside left.machine.log other trace left.source)) := by
  have still : Worlds (left.called called)
      ((left.beside left.machine.log other trace left.source).called likewise) := by
    refine ⟨likewise.stream, trace ++ likewise.events.toArray, builtin, ⟨_, rfl, alike.streams⟩, ?_, rfl⟩
    rw [World.called, World.delivered_record, ← alike.events]
    simp [delivered, Host.delivered]
  rw [Run.settle_eq, Run.settle_eq, alike.fault]
  cases likewise.fault with
  | none => exact .ok trivial still
  | some fault => exact .error ⟨rfl, trivial⟩ still

theorem Worlds.emit (related : Worlds left right) (bytes : Bytes) :
    Run.Matched (fun _ _ => True) (Run.Shared fun _ => True) Worlds (Run.emit bytes left)
      (Run.emit bytes right) := by
  rcases related with ⟨other, trace, builtin, ⟨outlet, attached, forwards⟩, delivered, rfl⟩
  rw [Run.emit_eq, Run.emit_eq, attached]
  exact @settle (left.kept bytes) other trace builtin delivered _ _ (forwards.write bytes)

theorem Worlds.flush (related : Worlds left right) :
    Run.Matched (fun _ _ => True) (Run.Shared fun _ => True) Worlds (Run.flush left) (Run.flush right) := by
  rcases related with ⟨other, trace, builtin, ⟨outlet, attached, forwards⟩, delivered, rfl⟩
  rw [Run.flush_eq, Run.flush_eq, attached]
  exact settle builtin delivered forwards.flush

theorem Worlds.afterRead (related : Worlds left right) : Worlds left.afterRead right.afterRead := by
  rcases related with ⟨other, trace, builtin, through, delivered, rfl⟩
  let read : Array StreamEvent := (left.source.prompt?.toList.map .shown).toArray ++
    [StreamEvent.read (Run.byteOf left.source.take.1).toOption].toArray
  refine ⟨other, trace ++ read, builtin, through, ?_, ?_⟩
  · rw [World.delivered_after_read, ← delivered]
    cases left.source.prompt? <;> simp [read, StreamEvent.delivered]
  · simp [World.beside, World.afterRead, World.record, read]

theorem Worlds.readByte (related : Worlds left right) :
    Run.Matched (· = ·) (Run.Shared fun _ => True) Worlds (Run.readByte left) (Run.readByte right) := by
  rw [Run.read_byte_eq, Run.read_byte_eq]
  have flushed := related.flush
  generalize Run.flush left = leftResult at flushed
  generalize Run.flush right = rightResult at flushed
  cases flushed with
  | error shared still => exact .error shared still
  | @ok _ _ leftAfter rightAfter _ still =>
      have after := still.afterRead
      have same : rightAfter.source = leftAfter.source := by
        rcases still with ⟨other, trace, -, -, -, rfl⟩
        rfl
      dsimp only
      rw [same]
      cases Run.byteOf leftAfter.source.take.1 with
      | ok byte => exact .ok rfl after
      | error fault => exact .error ⟨rfl, trivial⟩ after

theorem stepping : Run.Stepping Worlds fun _ => True where
  builtin := by
    rintro left right ⟨other, trace, builtin, -, -, rfl⟩
    exact ⟨builtin, builtin⟩
  files := by
    rintro left right ⟨other, trace, -, -, -, rfl⟩
    rfl
  tape := by
    rintro left right ⟨other, trace, -, -, -, rfl⟩
    rfl
  pointer := by
    rintro left right ⟨other, trace, -, -, -, rfl⟩
    rfl
  place := by
    rintro left right ⟨other, trace, builtin, through, delivered, rfl⟩ tape pointer
    exact ⟨other, trace, builtin, through, delivered, rfl⟩
  event := by
    rintro left right ⟨other, trace, builtin, through, delivered, rfl⟩ rule details
    exact ⟨other, trace, builtin, through, delivered, rfl⟩
  skip := by
    rintro left right ⟨other, trace, builtin, through, delivered, rfl⟩ path fault
    exact .ok trivial ⟨other, trace, builtin, through, delivered, rfl⟩
  append := by
    rintro left right ⟨other, trace, builtin, through, delivered, rfl⟩ fragment
    exact ⟨other, trace, builtin, through, delivered, rfl⟩
  emit related bytes := related.emit bytes
  ordinary _ _ := trivial
  program := by
    rintro left right ⟨other, trace, -, -, -, rfl⟩
    rfl
  ip := by
    rintro left right ⟨other, trace, -, -, -, rfl⟩
    rfl
  logStep := by
    rintro left right ⟨other, trace, builtin, through, delivered, rfl⟩ instruction
    exact ⟨other, trace, builtin, through, delivered, rfl⟩
  goTo := by
    rintro left right ⟨other, trace, builtin, through, delivered, rfl⟩ ip
    exact ⟨other, trace, builtin, through, delivered, rfl⟩

theorem Worlds.reported (related : Worlds left right) (fault : Fault) :
    Run.reported left.machine fault = Run.reported right.machine fault := by
  rcases related with ⟨other, trace, -, -, -, rfl⟩
  cases fault <;> rfl

theorem Worlds.ending (related : Worlds left right) (outlet other : Outlet) (failure : Option Fault) :
    Ended.Alike (Run.ending outlet failure left) (Run.ending other failure right) := by
  have verdict : failure.map (Run.reported left.machine) = failure.map (Run.reported right.machine) :=
    congrArg (Option.map · failure) (funext related.reported)
  have flushed := related.flush
  unfold Run.ending
  generalize Run.flush left = leftResult at flushed
  generalize Run.flush right = rightResult at flushed
  cases flushed with
  | error shared still => exact ⟨congrArg some shared.1, still.delivered⟩
  | ok _ still => exact ⟨verdict, still.delivered⟩

theorem run {outlet other : Outlet} (related : Worlds (left.attach outlet) (right.attach other))
    (fuel : Nat) :
    Option.Rel Ended.Alike (Run.run fuel outlet left) (Run.run fuel other right) := by
  have leftBuiltin : left.host.services.Builtin := (stepping.builtin related).1
  have rightBuiltin : right.host.services.Builtin := (stepping.builtin related).2
  have stopped : left.machine.halted = right.machine.halted := (stepping.halted_eq related :)
  cases halted : right.machine.halted with
  | true =>
      rw [Run.run_of_halted fuel outlet (stopped.trans halted), Run.run_of_halted fuel other halted]
      exact .some ⟨rfl, related.delivered⟩
  | false =>
      rw [Run.run_of_running fuel outlet leftBuiltin (stopped.trans halted),
        Run.run_of_running fuel other rightBuiltin halted]
      have stepped := stepping.steps Worlds.readByte related fuel
      generalize Run.steps fuel (left.attach outlet) = leftResult at stepped
      generalize Run.steps fuel (right.attach other) = rightResult at stepped
      cases stepped with
      | error shared still =>
          rcases shared with ⟨rfl, -⟩
          exact .some (still.ending outlet other _)
      | @ok finished _ _ _ same still =>
          cases same
          cases finished with
          | false => exact .none
          | true => exact .some (still.ending outlet other none)

end Forwarding

namespace FailureReport

theorem close_events (outlet : Outlet) : ∀ event ∈ outlet.close, event = .flushed := by
  cases outlet with
  | direct channel => exact nofun
  | tee captured sink => exact Outlet.flush_events _

theorem release_attach (report : Option FailureReport) (world : World) (outlet : Outlet) :
    ∃ events, (∀ event ∈ events, event = .flushed) ∧
      (release report world).2.attach outlet = (world.attach outlet).record events := by
  have nothing : (world.attach outlet).record [] = world.attach outlet := by simp [World.record]
  unfold release
  split
  · split
    · exact ⟨[], List.forall_mem_nil _, nothing.symm⟩
    · exact ⟨_, close_events _, rfl⟩
  · exact ⟨[], List.forall_mem_nil _, nothing.symm⟩

end FailureReport

/-- What the caller gets to see of a line: it comes to what a run has come to. -/
structure Fed.Agrees (fed : Fed) (ended : Ended) : Prop where
  returns : ended.fault = none → ∃ written, fed.outcome = .ok written
  raises : ∀ fault, ended.fault = some fault → fed.outcome = .error fault
  delivered : fed.world.host.delivered = ended.world.host.delivered

namespace Session

variable {session : Session} {world : World} {line : String} {fragment : List Instruction}

theorem feed_eq (accepted : parse (Text.encode line) lineFile .command = .ok fragment) (fuel : Nat)
    (sink : Option Channel) :
    ∃ report, session.feed fuel line sink world =
      (Run.run fuel (.tee #[] sink) (session.entering fragment world)).map
        (settle { session with inputs := session.inputs.push line, report }) := by
  unfold feed
  rw [accepted]
  exact ⟨_, (Option.map_map _ _ _).trans rfl⟩

theorem settle_agrees (session : Session) {ended other : Ended} (alike : ended.Alike other) :
    (session.settle ended).Agrees other := by
  have closed := World.delivered_flushes ended.world (FailureReport.close_events ended.outlet)
  unfold settle
  cases raised : ended.fault with
  | none =>
      refine ⟨fun _ => ⟨_, rfl⟩, ?_, closed.trans alike.delivered⟩
      intro fault same
      cases raised.symm.trans (alike.fault.trans same)
  | some fault =>
      refine ⟨?_, ?_, ?_⟩
      · intro same
        cases raised.symm.trans (alike.fault.trans same)
      · intro other same
        cases raised.symm.trans (alike.fault.trans same)
        rfl
      · dsimp only [file]
        rw [World.delivered_flushes _ (FailureReport.discard_events _), ← alike.delivered]
        cases FailureReport.isWrapped ended.verdict <;> cases fault.ofProgram <;> rfl

theorem entering_attach (session : Session) (fragment : List Instruction) (world : World)
    (outlet : Outlet) :
    ∃ events, (∀ event ∈ events, event = .flushed) ∧
      (session.entering fragment world).attach outlet =
        (World.attach { world with machine := world.machine.append fragment } outlet).record events :=
  FailureReport.release_attach _ _ outlet

theorem entering_forwards (session : Session) (fragment : List Instruction)
    (builtin : world.host.services.Builtin) {channel : Channel} (able : channel.canFlush = true) :
    Forwarding.Worlds ((session.entering fragment world).attach (.tee #[] (some channel)))
      (World.attach { world with machine := world.machine.append fragment } (.direct channel)) := by
  obtain ⟨events, flushes, entered⟩ :=
    session.entering_attach fragment world (.tee #[] (some channel))
  rw [entered]
  refine ⟨.direct channel, world.host.trace, builtin, ⟨_, rfl, .sink #[] able⟩, ?_, rfl⟩
  exact (World.delivered_flushes _ flushes).symm

theorem entering_keeps (session : Session) (fragment : List Instruction) (world : World) :
    (session.entering fragment world).machine.halted = (world.machine.append fragment).halted ∧
      (session.entering fragment world).host.services = world.host.services ∧
      (session.entering fragment world).host.delivered = world.host.delivered := by
  obtain ⟨events, flushes, entered⟩ := session.entering_attach fragment world (.tee #[] none)
  refine ⟨congrArg (·.machine.halted) entered, congrArg (·.host.services) entered, ?_⟩
  exact (congrArg (·.host.delivered) entered).trans (World.delivered_flushes _ flushes)

end Session

/-- A sink that is passed to a session is treated as a run would treat it, just when it can be flushed or the
line leaves nothing to run. A line that is fed then comes to the same as appending its program and running it
on the sink: it returns or raises the same, however writes and flushes fail, and delivers the same bytes.
With a sink that has no flush, a line that has something to run never comes to what the run comes to. -/
theorem feed_forwards_as_run {session : Session} {world : World} {line : String}
    {fragment : List Instruction} (builtin : world.host.services.Builtin)
    (accepted : parse (Text.encode line) Session.lineFile .command = .ok fragment) (channel : Channel) :
    let appended : World := { world with machine := world.machine.append fragment }
    (channel.canFlush = true ∨ appended.machine.halted = true → ∀ fuel,
        Option.Rel Fed.Agrees (session.feed fuel line (some channel) world)
          (Run.run fuel (.direct channel) appended)) ∧
      (channel.canFlush = false → appended.machine.halted = false →
        (∀ fuel fed, session.feed fuel line (some channel) world = some fed →
            fed.outcome = .error .cannotFlush) ∧
          ∀ fuel ended, Run.run fuel (.direct channel) appended = some ended →
            ended.fault ≠ some .cannotFlush) := by
  intro appended
  obtain ⟨halts, services, delivered⟩ := session.entering_keeps fragment world
  have entered : (session.entering fragment world).host.services.Builtin := services ▸ builtin
  constructor
  · intro usable fuel
    obtain ⟨report, fed⟩ := Session.feed_eq accepted fuel (some channel)
    have alike : Option.Rel Ended.Alike
        (Run.run fuel (.tee #[] (some channel)) (session.entering fragment world))
        (Run.run fuel (.direct channel) appended) := by
      -- a halted machine calls neither stream, so there the two need not be alike
      rcases usable with able | halted
      · exact Forwarding.run (session.entering_forwards fragment builtin able) fuel
      · rw [Run.run_of_halted _ _ (halts.trans halted), Run.run_of_halted _ _ halted]
        exact .some ⟨rfl, delivered⟩
    rw [fed]
    generalize Run.run fuel (.tee #[] (some channel)) (session.entering fragment world) = first at alike
    generalize Run.run fuel (.direct channel) appended = second at alike
    cases alike with
    | none => exact .none
    | some alike => exact .some (Session.settle_agrees _ alike)
  · intro unable running
    constructor
    · intro fuel fed feeds
      obtain ⟨report, ended, ran, rfl⟩ := Session.feed_of_accepted accepted feeds
      have raised := Run.run_insisting entered (.sink #[] unable) (halts.trans running) ran
      exact (Session.settle_agrees _ ⟨rfl, rfl⟩).raises _ raised
    · intro fuel ended ran
      have still : appended.host.services.Builtin := builtin
      exact Run.run_idle still (.channel unable) running ran

/-- A line reads, writes what it has read, and is flushed once more at its end. There the sink fails, so the
line raises what the run raises, and the byte has arrived in both cases. -/
theorem failing_sink_fails_as_in_run :
    ∃ (world : World) (channel : Channel) (fragment : List Instruction) (fed : Fed) (ended : Ended),
      world.host.services.Builtin ∧ world.machine.halted = true ∧
      parse (Text.encode ",.") Session.lineFile .command = .ok fragment ∧ channel.canFlush = true ∧
      Session.feed 9 {} ",." (some channel) world = some fed ∧
      Run.run 9 (.direct channel) { world with machine := world.machine.append fragment } = some ended ∧
      ended.fault = some (.file (.described "gone")) ∧ fed.outcome = .error (.file (.described "gone")) ∧
      fed.world.host.delivered = [65] ∧ ended.world.host.delivered = [65] := by
  let world : World := (newSession [65]).world
  let channel : Channel := .failingFlush 1
  have builtin : world.host.services.Builtin := (newSession [65]).builtin rfl
  have accepted : parse (Text.encode ",.") Session.lineFile .command = .ok [.input, .output] :=
    parse_eq_ok_of_some (by decide +kernel)
  have shown : (Run.run 9 (.direct channel)
      { world with machine := world.machine.append [.input, .output] }).map
      (fun ended => (ended.fault, ended.world.host.delivered)) =
      some (some (.file (.described "gone")), [65]) := by
    decide +kernel
  obtain ⟨ended, ran, seen⟩ := Option.map_eq_some_iff.mp shown
  obtain ⟨fault, delivered⟩ := Prod.mk.inj seen
  have agrees := (@feed_forwards_as_run {} world ",." _ builtin accepted channel).1 (.inl rfl) 9
  rw [ran] at agrees
  cases feeds : Session.feed 9 {} ",." (some channel) world with
  | none =>
      rw [feeds] at agrees
      cases agrees
  | some fed =>
      rw [feeds] at agrees
      cases agrees with
      | some agrees =>
          exact ⟨world, channel, _, fed, ended, builtin, rfl, accepted, rfl, feeds, ran, fault,
            agrees.raises _ fault, agrees.delivered.trans delivered, delivered⟩

/-- On a sink without a flush a run completes, and a line with the same program fails. -/
theorem sink_without_flush_fails_line :
    ∃ (world : World) (channel : Channel) (fragment : List Instruction) (fed : Fed) (ended : Ended),
      world.host.services.Builtin ∧ world.machine.halted = true ∧
      parse (Text.encode "+") Session.lineFile .command = .ok fragment ∧
      Session.feed 9 {} "+" (some channel) world = some fed ∧
      Run.run 9 (.direct channel) { world with machine := world.machine.append fragment } = some ended ∧
      fed.outcome = .error .cannotFlush ∧ ended.fault = none := by
  let world : World := (newSession []).world
  let channel : Channel := { canFlush := false }
  have accepted : parse (Text.encode "+") Session.lineFile .command = .ok [.counted .increment 1] :=
    parse_eq_ok_of_some (by decide +kernel)
  have fails : (Session.feed 9 {} "+" (some channel) world).map (·.outcome) =
      some (.error .cannotFlush) := rfl
  have passes : (Run.run 9 (.direct channel)
      { world with machine := world.machine.append [.counted .increment 1] }).map (·.fault) =
      some none := by decide +kernel
  obtain ⟨fed, feeds, raised⟩ := Option.map_eq_some_iff.mp fails
  obtain ⟨ended, ran, calm⟩ := Option.map_eq_some_iff.mp passes
  exact ⟨world, channel, _, fed, ended, (newSession []).builtin rfl, rfl, accepted, feeds, ran,
    raised, calm⟩

end TapeLang
