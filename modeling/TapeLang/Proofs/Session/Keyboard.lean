import TapeLang.Proofs.Machine.Upkeep
import TapeLang.Proofs.Session.Client

/-!
The keyboard of a session. A read takes a pending byte, and the next typed line when nothing is pending. So
whatever commands are bound and whoever listens, the lines that were taken while a line was fed are the
first ones, and the bytes that were read, with those still pending behind them, are the bytes that were
pending before and those of the lines taken, in order.
-/

namespace TapeLang

namespace Session

variable {fuel : Nat} {session : Session} {line : String} {sink : Option Channel} {world : World} {fed : Fed}

def entering (session : Session) (fragment : List Instruction) (world : World) : World :=
  (FailureReport.release session.report { world with machine := world.machine.append fragment }).2

theorem feed_of_refused {fault : SyntaxFault}
    (refused : parse (Text.encode line) lineFile .command = .error fault)
    (feeds : session.feed fuel line sink world = some fed) :
    fed.outcome = .error (.badSyntax fault) ∧ fed.session.inputs = session.inputs ∧
      fed.world = world.record (FailureReport.discard session.report) := by
  unfold feed at feeds
  rw [refused] at feeds
  cases feeds
  exact ⟨rfl, rfl, rfl⟩

theorem feed_of_accepted {fragment : List Instruction}
    (accepted : parse (Text.encode line) lineFile .command = .ok fragment)
    (feeds : session.feed fuel line sink world = some fed) :
    ∃ report ended, Run.run fuel (.tee #[] sink) (session.entering fragment world) = some ended ∧
      fed = settle { session with inputs := session.inputs.push line, report } ended := by
  unfold feed at feeds
  rw [accepted] at feeds
  obtain ⟨⟨next, ended⟩, runs, rfl⟩ := Option.map_eq_some_iff.mp feeds
  obtain ⟨left, ran, same⟩ := Option.map_eq_some_iff.mp runs
  cases same
  exact ⟨_, ended, ran, rfl⟩

end Session

def StreamEvent.read? : StreamEvent → Option UInt8
  | .read byte => byte
  | _ => none

def Host.reads (host : Host) : Bytes := host.trace.toList.filterMap StreamEvent.read?

namespace World

theorem reads_record (world : World) (events : List StreamEvent) :
    (world.record events).host.reads = world.host.reads ++ events.filterMap StreamEvent.read? := by
  simp [record, Host.reads]

theorem reads_record_quiet (world : World) {events : List StreamEvent}
    (quiet : ∀ event ∈ events, event.read? = none) :
    (world.record events).host.reads = world.host.reads := by
  rw [reads_record, List.filterMap_eq_nil_iff.mpr quiet, List.append_nil]

theorem reads_after_read (world : World) :
    world.afterRead.host.reads =
      world.host.reads ++ (Run.byteOf world.source.take.1).toOption.toList := by
  unfold afterRead
  rw [reads_record]
  change (world.record _).host.reads ++ _ = _
  rw [reads_record_quiet]
  · cases (Run.byteOf world.source.take.1).toOption <;> rfl
  · intro event shown
    obtain ⟨text, -, rfl⟩ := List.mem_map.mp shown
    rfl

end World

theorem Outlet.write_quiet (outlet : Outlet) (bytes : Bytes) :
    ∀ event ∈ (outlet.write bytes).events, event.read? = none := by
  intro event found
  rw [(outlet.write_called bytes).2.1] at found
  split at found
  · rw [List.mem_singleton.mp found]
    rfl
  · cases found

theorem quiet_of_flushes {events : List StreamEvent} (flushes : ∀ event ∈ events, event = .flushed) :
    ∀ event ∈ events, event.read? = none := by
  intro event found
  rw [flushes event found]
  rfl

theorem Outlet.close_quiet (outlet : Outlet) : ∀ event ∈ outlet.close, event.read? = none := by
  cases outlet with
  | direct channel => exact nofun
  | tee captured sink => exact quiet_of_flushes (Outlet.flush_events _)

namespace Keyboard

def bytesOf (line : String) : Bytes := Text.encode line ++ [Location.newline]

/-- What one read from a keyboard comes to. -/
theorem take_cases (keyboard : Keyboard) :
    (∃ byte rest, keyboard.pending = byte :: rest ∧
        (Source.typed keyboard).take = (.byte byte, .typed { keyboard with pending := rest })) ∨
      (∃ line lines byte rest, keyboard.pending = [] ∧ keyboard.lines = line :: lines ∧
        bytesOf line = byte :: rest ∧
        (Source.typed keyboard).take = (.byte byte, .typed { keyboard with pending := rest, lines })) ∨
      (keyboard.pending = [] ∧ keyboard.lines = [] ∧
        (Source.typed keyboard).take = (.nothing, .typed keyboard)) := by
  obtain ⟨prompt, pending, lines⟩ := keyboard
  cases pending with
  | cons byte rest => exact .inl ⟨byte, rest, rfl, by simp [Source.take, read, refill, taken]⟩
  | nil =>
      cases lines with
      | nil => exact .inr (.inr ⟨rfl, rfl, rfl⟩)
      | cons line lines =>
          cases bytes : bytesOf line with
          | nil => simp [bytesOf] at bytes
          | cons byte rest =>
              refine .inr (.inl ⟨line, lines, byte, rest, rfl, rfl, bytes, ?_⟩)
              rw [bytesOf] at bytes
              simp [Source.take, read, refill, taken, bytes]

structure Draws (before : Keyboard) (earlier : Bytes) (used : List String) (after : Keyboard)
    (later : Bytes) : Prop where
  lines : before.lines = used ++ after.lines
  bytes : later ++ after.pending = earlier ++ before.pending ++ used.flatMap bytesOf

namespace Draws

theorem refl (keyboard : Keyboard) (reads : Bytes) : keyboard.Draws reads [] keyboard reads :=
  ⟨rfl, (List.append_nil _).symm⟩

theorem trans {first second third : Keyboard} {early middle late : Bytes} {used more : List String}
    (before : first.Draws early used second middle) (after : second.Draws middle more third late) :
    first.Draws early (used ++ more) third late where
  lines := by rw [before.lines, after.lines, List.append_assoc]
  bytes := by rw [after.bytes, before.bytes, List.flatMap_append, List.append_assoc]

end Draws

theorem draws_take (keyboard : Keyboard) (earlier : Bytes) :
    ∃ used after, (Source.typed keyboard).take.2 = .typed after ∧
      keyboard.Draws earlier used after
        (earlier ++ (Run.byteOf (Source.typed keyboard).take.1).toOption.toList) := by
  rcases keyboard.take_cases with
    ⟨byte, rest, pending, taken⟩ | ⟨line, lines, byte, rest, pending, typed, bytes, taken⟩ |
      ⟨pending, typed, taken⟩
  · rw [taken]
    refine ⟨[], _, rfl, rfl, ?_⟩
    simp [pending, Run.byteOf, Except.toOption]
  · rw [taken]
    refine ⟨[line], _, rfl, typed, ?_⟩
    simp [pending, bytes, Run.byteOf, Except.toOption]
  · rw [taken]
    refine ⟨[], _, rfl, rfl, ?_⟩
    simp [Run.byteOf, Except.toOption]

end Keyboard

/-- The source is the keyboard that the world was started with, from which lines were drawn since. -/
def World.Draws (start : Keyboard) (earlier : Bytes) (world : World) : Prop :=
  ∃ used keyboard, world.source = .typed keyboard ∧ start.Draws earlier used keyboard world.host.reads

namespace World.Draws

variable {start : Keyboard} {earlier : Bytes} {world after : World}

theorem quiet (draws : world.Draws start earlier) (source : after.source = world.source)
    (reads : after.host.reads = world.host.reads) : after.Draws start earlier := by
  obtain ⟨used, keyboard, typed, drawn⟩ := draws
  exact ⟨used, keyboard, source.trans typed, reads ▸ drawn⟩

theorem record (draws : world.Draws start earlier) {events : List StreamEvent}
    (silent : ∀ event ∈ events, event.read? = none) : (world.record events).Draws start earlier :=
  draws.quiet rfl (world.reads_record_quiet silent)

theorem called (draws : world.Draws start earlier) {called : Called Outlet}
    (silent : ∀ event ∈ called.events, event.read? = none) : (world.called called).Draws start earlier :=
  have attached : World.Draws start earlier
      { world with machine := { world.machine with attached := some called.stream } } := draws
  attached.record silent

theorem flush (draws : world.Draws start earlier) :
    Run.Yields Run.flush world (fun _ after => after.Draws start earlier)
      fun _ after => after.Draws start earlier := by
  rw [Run.yields_flush]
  refine ⟨fun _ => draws, ?_⟩
  intro outlet _
  have flushed := draws.called (quiet_of_flushes outlet.flush_events)
  rw [Run.yields_settle]
  exact ⟨fun _ => flushed, fun _ _ => flushed⟩

theorem afterRead (draws : world.Draws start earlier) : world.afterRead.Draws start earlier := by
  obtain ⟨used, keyboard, typed, drawn⟩ := draws
  obtain ⟨more, rest, taken, brought⟩ := keyboard.draws_take world.host.reads
  refine ⟨used ++ more, rest, ?_, ?_⟩
  · change world.source.take.2 = .typed rest
    rw [typed, taken]
  · rw [reads_after_read, typed]
    exact drawn.trans brought

theorem primitives_keep (start : Keyboard) (earlier : Bytes) :
    Run.PrimitivesKeep (World.Draws start earlier) where
  machine draws _ := draws
  remark _ _ draws := draws
  register draws _ := draws
  emit := by
    intro bytes world draws
    rw [Run.yields_emit]
    refine ⟨fun _ => draws, ?_⟩
    intro outlet _
    have kept : (world.kept bytes).Draws start earlier := draws
    have written := kept.called (outlet.write_quiet bytes)
    rw [Run.yields_settle]
    exact ⟨fun _ => written, fun _ _ => written⟩
  read := by
    intro world draws
    rw [Run.yields_read_byte]
    apply draws.flush.mono ?_ fun _ _ still => still
    intro _ flushed still
    exact ⟨fun _ _ => still.afterRead, fun _ _ => still.afterRead⟩

theorem conclusion (draws : world.Draws start earlier) (outlet : Outlet) (verdict : Option Fault) :
    (Run.conclusion outlet verdict world).world.Draws start earlier := by
  have flushes := draws.flush
  unfold Run.conclusion
  rw [Run.conclude, Run.bind_eq]
  cases flushed : Run.flush world with
  | ok value after =>
      have still : after.Draws start earlier := flushes.of_ok flushed
      exact still
  | error fault after => exact flushes.of_error flushed

theorem run {fuel : Nat} {outlet : Outlet} {ended : Ended} (draws : world.Draws start earlier)
    (ran : Run.run fuel outlet world = some ended) : ended.world.Draws start earlier := by
  have attached : (world.attach outlet).Draws start earlier := draws
  cases halted : world.machine.halted with
  | true =>
      rw [Run.run_of_halted fuel outlet halted] at ran
      cases ran
      exact draws
  | false =>
      cases Run.course_of_run halted ran with
      | refused starts => exact ((primitives_keep start earlier).notify _ _ _).of_error attached starts
      | @concluded arguments started executed failure starts stops =>
          have begun := ((primitives_keep start earlier).notify _ _ _).of_ok attached starts
          have done := (primitives_keep start earlier).stopped begun stops
          exact conclusion ((primitives_keep start earlier).judged failure done) outlet _

theorem release (draws : world.Draws start earlier) (report : Option FailureReport) :
    (FailureReport.release report world).2.Draws start earlier := by
  have freed : World.Draws start earlier
      { world with machine := { world.machine with attached := none } } := draws
  unfold FailureReport.release
  split
  · split
    · exact freed
    · exact freed.record (Outlet.close_quiet _)
  · exact draws

theorem file (draws : world.Draws start earlier) (session : Session) (report : FailureReport) :
    (session.file report world).2.Draws start earlier :=
  draws.record (quiet_of_flushes (FailureReport.discard_events _))

theorem settle {ended : Ended} (draws : ended.world.Draws start earlier) (session : Session) :
    (session.settle ended).world.Draws start earlier := by
  unfold Session.settle
  cases ended.fault with
  | none => exact draws.record ended.outlet.close_quiet
  | some fault =>
      have kept : World.Draws start earlier
          (if FailureReport.isWrapped ended.verdict then FailureReport.keepAttached ended.world
          else ended.world) := by
        cases FailureReport.isWrapped ended.verdict <;> exact draws
      have rested (world : World) (still : world.Draws start earlier) :
          World.Draws start earlier (if fault.ofProgram then Session.skipRest world else world) := by
        cases fault.ofProgram <;> exact still
      exact (rested _ kept).file _ (.ofEnded ended fault)

/-- Feeding a line takes lines from the keyboard in order and loses no byte of them. -/
theorem feed {fuel : Nat} {session : Session} {line : String} {sink : Option Channel} {fed : Fed}
    (draws : world.Draws start earlier) (feeds : session.feed fuel line sink world = some fed) :
    fed.world.Draws start earlier := by
  cases parsed : parse (Text.encode line) Session.lineFile .command with
  | error fault =>
      obtain ⟨-, -, same⟩ := Session.feed_of_refused parsed feeds
      rw [same]
      exact draws.record (quiet_of_flushes (FailureReport.discard_events _))
  | ok fragment =>
      obtain ⟨report, ended, ran, rfl⟩ := Session.feed_of_accepted parsed feeds
      have appended : World.Draws start earlier
          { world with machine := world.machine.append fragment } := draws
      exact ((appended.release session.report).run ran).settle _

end World.Draws

end TapeLang
