import TapeLang.Proofs.Machine.Coupling

/-!
Input can be delivered in pieces. A run that fails at the end of its input leaves the machine just before
the instruction that asked for more; run again with the rest of the input, it comes to the same end as one
run that had all of the input from the start. Only the log tells the difference: it has one entry more, for
the instruction that was tried twice.
-/

namespace TapeLang

namespace StepLog

def recordAll (log : StepLog Cell) (reports : List (Report Cell)) : StepLog Cell :=
  reports.foldl record log

@[simp] theorem record_all_append (log : StepLog Cell) (first second : List (Report Cell)) :
    log.recordAll (first ++ second) = (log.recordAll first).recordAll second :=
  List.foldl_append

end StepLog

structure Pace where
  leftLog : StepLog UInt8
  rightLog : StepLog UInt8
  leftTrace : Array StreamEvent
  rightTrace : Array StreamEvent
  further : Bytes

namespace Pace

/-- The second machine shows what the first one shows beside a log with the same entries added, an outlet
abreast, a record with the same output added, and more input. -/
structure Beside (pace : Pace) (left : World) (log : StepLog UInt8) (outlet : Outlet)
    (trace : Array StreamEvent) (source : Source) : Prop where
  builtin : left.host.services.Builtin
  log : ∃ reports, left.machine.log = pace.leftLog.recordAll reports ∧
    log = pace.rightLog.recordAll reports
  attached : ∃ other, left.machine.attached = some other ∧ other.Abreast outlet ∧
    ∀ ahead fault, other.writeFault ahead = some fault → ¬fault.Starves
  trace : ∃ added others : List StreamEvent, left.host.trace = pace.leftTrace ++ added.toArray ∧
    trace = pace.rightTrace ++ others.toArray ∧
    added.flatMap StreamEvent.output = others.flatMap StreamEvent.output
  source : ∃ input, left.source = .ofBytes input ∧ source = .ofBytes (input ++ pace.further)

def Worlds (pace : Pace) (left right : World) : Prop :=
  ∃ log outlet trace source, right = left.beside log outlet trace source ∧
    pace.Beside left log outlet trace source

variable {pace : Pace} {left right : World}

theorem Worlds.logReport (related : pace.Worlds left right) (report : StepLog.Report UInt8) :
    pace.Worlds { left with machine := left.machine.logReport report }
      { right with machine := right.machine.logReport report } := by
  rcases related with ⟨log, outlet, trace, source, rfl, beside⟩
  rcases beside.log with ⟨reports, leftLog, rfl⟩
  refine ⟨_, outlet, trace, source, rfl, { beside with log := ⟨reports ++ [report], ?_, ?_⟩ }⟩
  · rw [StepLog.record_all_append, ← leftLog]
    rfl
  · rw [StepLog.record_all_append]
    rfl

theorem Worlds.called (related : pace.Worlds left right) {first second : Called Outlet}
    (abreast : first.stream.Abreast second.stream)
    (honest : ∀ ahead fault, first.stream.writeFault ahead = some fault → ¬fault.Starves)
    (same : first.events.flatMap StreamEvent.output = second.events.flatMap StreamEvent.output) :
    pace.Worlds (left.called first) (right.called second) := by
  rcases related with ⟨log, outlet, trace, source, rfl, beside⟩
  rcases beside.trace with ⟨added, others, leftTrace, rfl, together⟩
  refine ⟨log, second.stream, _, source, rfl,
    { beside with
      attached := ⟨first.stream, rfl, abreast, honest⟩
      trace := ⟨added ++ first.events, others ++ second.events, ?_, ?_, ?_⟩ }⟩
  · simp [World.called, World.record, leftTrace]
  · simp [World.beside]
  · rw [List.flatMap_append, List.flatMap_append, together, same]

theorem Worlds.kept (related : pace.Worlds left right) (bytes : Bytes) :
    pace.Worlds (left.kept bytes) (right.kept bytes) := by
  rcases related with ⟨log, outlet, trace, source, rfl, beside⟩
  exact ⟨log, outlet, trace, source, rfl, { beside with }⟩

theorem Worlds.emit (related : pace.Worlds left right) (bytes : Bytes) :
    Run.Matched (fun _ _ => True) (Run.Shared fun fault => ¬fault.Starves) pace.Worlds
      (Run.emit bytes left) (Run.emit bytes right) := by
  have still := related.kept bytes
  rcases related with ⟨log, outlet, trace, source, rfl, beside⟩
  rcases beside.attached with ⟨other, attached, abreast, honest⟩
  obtain ⟨fault, events, stays⟩ := abreast.write bytes
  obtain ⟨raised, -, -, later, -⟩ := other.write_called bytes
  have honestLater : ∀ ahead fault, (other.write bytes).stream.writeFault ahead = some fault →
      ¬fault.Starves := by
    intro ahead fault found
    exact honest (ahead + 1) fault ((later ahead).symm.trans found)
  have settled := still.called stays honestLater (congrArg _ events)
  rw [Run.emit_eq, Run.emit_eq, attached]
  change Run.Matched _ _ _ (Run.settle (other.write bytes) _) (Run.settle (outlet.write bytes) _)
  rw [Run.settle_eq, Run.settle_eq, ← fault]
  cases failed : (other.write bytes).fault with
  | none => exact .ok trivial settled
  | some fault => exact .error ⟨rfl, honest 0 fault (raised.symm.trans failed)⟩ settled

theorem Worlds.flush (related : pace.Worlds left right) :
    ∃ first second, Run.flush left = .ok () (left.called first) ∧
      Run.flush right = .ok () (right.called second) ∧
      pace.Worlds (left.called first) (right.called second) := by
  have together := related
  rcases related with ⟨log, outlet, trace, source, rfl, beside⟩
  rcases beside.attached with ⟨other, attached, abreast, honest⟩
  obtain ⟨leftFine, -, -, later⟩ := Outlet.flush_called abreast.leftFlushable
  obtain ⟨rightFine, -⟩ := Outlet.flush_called abreast.rightFlushable
  refine ⟨other.flush, outlet.flush, ?_, ?_, ?_⟩
  · exact Run.flush_of_attached attached leftFine
  · exact Run.flush_of_attached rfl rightFine
  · apply together.called
    · exact abreast.flush.1.flush.2
    · intro ahead fault found
      exact honest ahead fault ((later ahead).symm.trans found)
    · rw [other.silent_flush, outlet.silent_flush]

theorem stepping {faults : Fault → Prop} (ordinary : ∀ fault : Fault, ¬fault.Starves → faults fault) :
    Run.Stepping pace.Worlds faults where
  builtin := by
    rintro left right ⟨log, outlet, trace, source, rfl, beside⟩
    exact ⟨beside.builtin, beside.builtin⟩
  files := by
    rintro left right ⟨log, outlet, trace, source, rfl, beside⟩
    rfl
  tape := by
    rintro left right ⟨log, outlet, trace, source, rfl, beside⟩
    rfl
  pointer := by
    rintro left right ⟨log, outlet, trace, source, rfl, beside⟩
    rfl
  place := by
    rintro left right ⟨log, outlet, trace, source, rfl, beside⟩ tape pointer
    exact ⟨log, outlet, trace, source, rfl, { beside with }⟩
  event := by
    rintro left right ⟨log, outlet, trace, source, rfl, beside⟩ rule details
    exact Worlds.logReport ⟨log, outlet, trace, source, rfl, beside⟩ _
  skip := by
    rintro left right ⟨log, outlet, trace, source, rfl, beside⟩ path fault
    have pushed : pace.Worlds
        { left with machine := { left.machine with skipped := left.machine.skipped.push path } }
        (World.beside
          { left with machine := { left.machine with skipped := left.machine.skipped.push path } }
          log outlet trace source) :=
      ⟨log, outlet, trace, source, rfl, { beside with }⟩
    obtain ⟨log, outlet, trace, source, same, noted⟩ := pushed.logReport {
      ip := some left.machine.ip
      pointer := left.machine.pointer
      record := [("rule", .str "INCLUDE_SKIPPED"), ("path", .str path), ("reason", .str fault.message)] }
    refine .ok trivial ⟨log, outlet, trace, source, ?_, { noted with }⟩
    have told (lines : Array String) := congrArg (fun world : World =>
      { world with host := { world.host with diagnostics := lines } }) same
    exact told (left.host.diagnostics.push _)
  append := by
    rintro left right ⟨log, outlet, trace, source, rfl, beside⟩ fragment
    exact ⟨log, outlet, trace, source, rfl, { beside with }⟩
  emit related bytes :=
    (related.emit bytes).mono (fun _ _ shared => ⟨shared.1, ordinary _ shared.2⟩) fun _ _ still => still
  ordinary := ordinary
  program := by
    rintro left right ⟨log, outlet, trace, source, rfl, beside⟩
    rfl
  ip := by
    rintro left right ⟨log, outlet, trace, source, rfl, beside⟩
    rfl
  logStep := by
    rintro left right ⟨log, outlet, trace, source, rfl, beside⟩ instruction
    exact Worlds.logReport ⟨log, outlet, trace, source, rfl, beside⟩ _
  goTo := by
    rintro left right ⟨log, outlet, trace, source, rfl, beside⟩ ip
    exact ⟨log, outlet, trace, source, rfl, { beside with }⟩

theorem Worlds.afterRead (related : pace.Worlds left right)
    (enough : left.source ≠ .ofBytes [] ∨ pace.further = []) :
    Run.byteOf left.source.take.1 = Run.byteOf right.source.take.1 ∧
      pace.Worlds left.afterRead right.afterRead := by
  rcases related with ⟨log, outlet, trace, source, rfl, beside⟩
  rcases beside.source with ⟨input, given, rfl⟩
  rcases beside.trace with ⟨added, others, leftTrace, rfl, together⟩
  have same : left.source.take.1 = (Source.ofBytes (input ++ pace.further)).take.1 ∧
      ∃ rest, left.source.take.2 = .ofBytes rest ∧
        (Source.ofBytes (input ++ pace.further)).take.2 = .ofBytes (rest ++ pace.further) := by
    cases input with
    | cons byte rest =>
        rw [given]
        exact ⟨rfl, rest, rfl, rfl⟩
    | nil =>
        rcases enough with more | none
        · exact absurd given more
        · rw [given, none]
          exact ⟨rfl, [], rfl, rfl⟩
  rcases same with ⟨delivery, rest, leftRest, rightRest⟩
  have quiet : left.source.prompt? = none := by
    rw [given]
    rfl
  constructor
  · exact congrArg Run.byteOf delivery
  · refine ⟨log, outlet,
      pace.rightTrace ++ (others ++ [StreamEvent.read (Run.byteOf left.source.take.1).toOption]).toArray,
      .ofBytes (rest ++ pace.further), ?_,
      { beside with
        trace := ⟨added ++ [.read (Run.byteOf left.source.take.1).toOption], _, ?_, rfl, ?_⟩
        source := ⟨rest, leftRest, rfl⟩ }⟩
    · simp only [World.afterRead, World.record, World.beside, ← rightRest, delivery]
      simp [Source.ofBytes, Source.prompt?]
    · simp [World.afterRead, World.record, quiet, leftTrace]
    · rw [List.flatMap_append, List.flatMap_append, together]

theorem Worlds.readByte {faults : Fault → Prop} (related : pace.Worlds left right)
    (enough : left.source ≠ .ofBytes [] ∨ pace.further = [])
    (allowed : ∀ fault, Run.byteOf left.source.take.1 = .error fault → faults fault) :
    Run.Matched (· = ·) (Run.Shared faults) pace.Worlds (Run.readByte left) (Run.readByte right) := by
  obtain ⟨first, second, leftFlush, rightFlush, flushed⟩ := related.flush
  have unread : (left.called first).source = left.source := rfl
  rw [← unread] at enough allowed
  obtain ⟨same, after⟩ := flushed.afterRead enough
  rw [Run.read_byte_eq, Run.read_byte_eq, leftFlush, rightFlush]
  dsimp only
  rw [← same]
  cases brought : Run.byteOf (left.called first).source.take.1 with
  | ok byte => exact .ok rfl after
  | error fault => exact .error ⟨rfl, allowed fault brought⟩ after

theorem lockstep (complete : pace.further = []) : Run.Lockstep pace.Worlds fun _ => True where
  toStepping := stepping fun _ _ => trivial
  read related := related.readByte (.inr complete) fun _ _ => trivial
  flush related := by
    obtain ⟨first, second, leftFlush, rightFlush, flushed⟩ := related.flush
    exact ⟨_, _, leftFlush, rightFlush, flushed⟩
  attached := by
    rintro left right ⟨log, outlet, trace, source, rfl, beside⟩
    rcases beside.attached with ⟨other, attached, -, -⟩
    exact ⟨other, outlet, attached, rfl⟩

/-- A step does the same to both and is not starved, or else it asks for more input than the first has. -/
theorem Worlds.step (related : pace.Worlds left right) :
    Run.Matched (fun _ _ => True) (Run.Shared fun fault => ¬fault.Starves) pace.Worlds
        (Run.step left) (Run.step right) ∨
      (left.machine.fetch left.machine.ip = .ok .input ∧ left.source = .ofBytes []) := by
  by_cases ended : left.machine.fetch left.machine.ip = .ok .input ∧ left.source = .ofBytes []
  · exact .inr ended
  · left
    apply (stepping fun _ ordinary => ordinary).step related
    intro fetched
    have more : left.source ≠ .ofBytes [] := fun empty => ended ⟨fetched, empty⟩
    apply ((stepping fun _ ordinary => ordinary).logStep related .input).readByte (.inl more)
    intro fault failed
    rcases related with ⟨log, outlet, trace, source, rfl, beside⟩
    rcases beside.source with ⟨input, given, rfl⟩
    cases input with
    | nil => exact absurd given more
    | cons byte rest =>
        dsimp only at failed
        rw [given] at failed
        cases failed

end Pace

/-- Asking for input that has ended changes the log and the outlet and is seen by the streams, but nothing
is put out and the machine stays where it is. -/
theorem Run.step_starving {world : World} {outlet : Outlet}
    (fetched : world.machine.fetch world.machine.ip = .ok .input)
    (empty : world.source = .ofBytes []) (attached : world.machine.attached = some outlet)
    (flushable : outlet.Flushable) :
    ∃ events : List StreamEvent, events.flatMap StreamEvent.output = [] ∧
      step world = .error (.runtime { cause := .inputEnded, rule := some "input" })
        (world.beside (world.machine.logStep .input).log outlet.flush.stream
          (world.host.trace ++ events.toArray) (.ofBytes [])) := by
  refine ⟨outlet.flush.events ++ [.read none], ?_, ?_⟩
  · rw [List.flatMap_append, outlet.silent_flush]
    rfl
  · have flushed : flush { world with machine := world.machine.logStep .input } =
        .ok () (World.called { world with machine := world.machine.logStep .input } outlet.flush) :=
      flush_of_attached attached (Outlet.flush_called flushable).1
    rw [step_eq fetched, exec, bind_eq, bind_eq, read_byte_eq, flushed]
    simp only [World.called, World.record, World.afterRead, empty, Source.ofBytes, Source.take,
      Source.prompt?, List.map_nil, byteOf]
    simp [World.beside, Machine.logStep, Machine.logReport, Except.toOption]

namespace Pace

variable {pace : Pace} {left right : World}

/-- Steps do the same to both and are not starved, or else the second machine can be brought to just before
the instruction at which the first one is starved. -/
theorem Worlds.steps (related : pace.Worlds left right) (fuel : Nat) :
    Run.Matched (· = ·) (Run.Shared fun fault => ¬fault.Starves) pace.Worlds
        (Run.steps fuel left) (Run.steps fuel right) ∨
      ∃ lead middle other fault after, Run.steps fuel left = .error fault after ∧
        Run.steps lead right = .ok false other ∧ pace.Worlds middle other ∧
        middle.machine.halted = false ∧ middle.machine.fetch middle.machine.ip = .ok .input ∧
        middle.source = .ofBytes [] ∧ Run.step middle = .error fault after := by
  -- in step until the first read without a byte, which only the left world meets
  induction fuel generalizing left right with
  | zero => exact .inl (.ok ((stepping fun _ ordinary => ordinary).halted_eq related) related)
  | succ fuel ih =>
      have same := (stepping fun _ ordinary => ordinary).halted_eq related
      cases halted : left.machine.halted with
      | true =>
          rw [Run.steps_succ_of_halted fuel halted,
            Run.steps_succ_of_halted fuel (same.symm.trans halted)]
          exact .inl (.ok rfl related)
      | false =>
          have leftTaken := Run.steps_succ_of_running fuel halted
          have rightTaken (lead : Nat) := Run.steps_succ_of_running lead (same.symm.trans halted)
          simp only [Run.bind_eq] at leftTaken rightTaken
          rcases related.step with stepped | ⟨fetched, empty⟩
          · rw [leftTaken]
            simp only [rightTaken]
            generalize Run.step left = leftResult at stepped
            generalize Run.step right = rightResult at stepped rightTaken
            cases stepped with
            | error shared still => exact .inl (.error shared still)
            | ok _ still =>
                rcases ih still with matched | ⟨lead, middle, other, fault, after, failed, reached, rest⟩
                · exact .inl matched
                · exact .inr ⟨lead + 1, middle, other, fault, after, failed,
                    (rightTaken lead).trans reached, rest⟩
          · right
            have running : Run.steps 0 right = .ok false right := by
              rw [Run.steps_zero, ← same, halted]
            have together := related
            rcases related with ⟨log, outlet, trace, source, rfl, beside⟩
            rcases beside.attached with ⟨other, attached, abreast, -⟩
            obtain ⟨events, -, stepped⟩ := Run.step_starving fetched empty attached abreast.leftFlushable
            rw [stepped] at leftTaken
            exact ⟨0, left, _, _, _, leftTaken, running, together, halted, fetched, empty, stepped⟩

end Pace

theorem Run.starves_reported {machine : Machine} {fault : Fault}
    (starves : (reported machine fault).Starves) : fault.Starves := by
  cases fault with
  | runtime fault => exact starves
  | _ => simp_all [reported, locate, Fault.ofProgram, Fault.Starves]

def World.given (world : World) (input : Bytes) : World :=
  { world with source := .ofBytes input }

theorem Pace.Worlds.ending_fault {pace : Pace} {left right : World} (related : pace.Worlds left right)
    (outlet : Outlet) (failure : Option Fault) :
    (Run.ending outlet failure left).fault = failure.map (Run.reported left.machine) := by
  obtain ⟨first, second, leftFlush, -, -⟩ := related.flush
  unfold Run.ending
  rw [leftFlush]

/-- A run that starved, against the steps of a machine with more input: these reach a place from which the
run differs in its log, its outlet and the record of its streams only, and nothing more was put out. -/
theorem Pace.Worlds.run_starved {pace : Pace} {left right : World} {early : Outlet} {fuel : Nat}
    {first : Ended} {fault : Fault} (related : pace.Worlds (left.attach early) right)
    (ran : Run.run fuel early left = some first) (failed : first.fault = some fault)
    (starves : fault.Starves) :
    left.machine.halted = false ∧ ∃ lead middle log outlet trace other, ∃ events : List StreamEvent,
      Run.steps lead right = .ok false (middle.beside log outlet trace (.ofBytes pace.further)) ∧
      pace.Beside middle log outlet trace (.ofBytes pace.further) ∧
      middle.machine.halted = false ∧ middle.machine.fetch middle.machine.ip = .ok .input ∧
      middle.machine.attached = some other ∧ first.outlet = other.flush.stream.flush.stream ∧
      events.flatMap StreamEvent.output = [] ∧
      ∀ late input, (first.world.given input).attach late =
        middle.beside (middle.machine.logStep .input).log late (middle.host.trace ++ events.toArray)
          (.ofBytes input) := by
  have builtin : left.host.services.Builtin := ((Pace.stepping fun _ h => h).builtin related).1
  cases halted : left.machine.halted with
  | true =>
      rw [Run.run_of_halted fuel early halted] at ran
      cases ran
      cases failed
  | false =>
      rw [Run.run_of_running fuel early builtin halted] at ran
      rcases related.steps fuel with stepped | ⟨lead, middle, reached, raised, after, result, steps, still,
        running, fetched, empty, step⟩
      · -- a run that was not starved does not report so
        generalize Run.steps fuel (left.attach early) = leftResult at ran stepped
        generalize Run.steps fuel right = rightResult at stepped
        cases stepped with
        | @ok finished _ _ _ _ still =>
            cases finished with
            | false => cases ran
            | true =>
                cases ran
                rw [still.ending_fault] at failed
                cases failed
        | error shared still =>
            rcases shared with ⟨rfl, fed⟩
            cases ran
            rw [still.ending_fault] at failed
            cases failed
            exact absurd (Run.starves_reported starves) fed
      · rw [result] at ran
        rcases still with ⟨log, outlet, trace, source, rfl, beside⟩
        rcases beside.attached with ⟨other, attached, abreast, -⟩
        rcases beside.source with ⟨input, left, rfl⟩
        obtain rfl : input = [] := Source.of_bytes_injective (left.symm.trans empty)
        obtain ⟨events, silent, stepped⟩ :=
          Run.step_starving fetched empty attached abreast.leftFlushable
        cases stepped.symm.trans step
        have flushable := (Outlet.flush_called abreast.leftFlushable).2.1
        have flushed (world : World) (log : StepLog UInt8) (trace : Array StreamEvent) (source : Source) :
            Run.flush (world.beside log other.flush.stream trace source) =
              .ok () (World.called (world.beside log other.flush.stream trace source)
                other.flush.stream.flush) := by
          rw [Run.flush_eq]
          exact (Run.settle_eq _ _).trans (by rw [(Outlet.flush_called flushable).1])
        refine ⟨rfl, lead, middle, log, outlet, trace, other, events ++ other.flush.stream.flush.events, steps,
          beside, running, fetched, attached, ?_, ?_, ?_⟩
        · cases ran
          unfold Run.ending
          rw [flushed]
          rfl
        · rw [List.flatMap_append, silent, Outlet.silent_flush]
          rfl
        · intro late input
          cases ran
          unfold Run.ending
          rw [flushed]
          simp [World.beside, World.called, World.record, World.given, World.attach]

theorem World.logs_beside (world : World) (instruction : Instruction) :
    ∃ report : StepLog.Report UInt8, report.instruction = some instruction.text ∧
      report.ip = some world.machine.ip ∧
      (world.machine.logStep instruction).log = world.machine.log.record report ∧
      ∀ log outlet trace source, (world.beside log outlet trace source).machine.logStep instruction =
        (world.beside (log.record report) outlet trace source).machine :=
  ⟨_, rfl, rfl, rfl, fun _ _ _ _ => rfl⟩

def Pace.level (leftLog rightLog : StepLog UInt8) (leftTrace rightTrace : Array StreamEvent) : Pace :=
  { leftLog, rightLog, leftTrace, rightTrace, further := [] }

/-- Two machines that stand before the same request for input, and have the same input for it, log that
request once more and then come to the same end. -/
theorem Pace.resumed {middle : World} {late outlet : Outlet} {repeated : StepLog.Report UInt8}
    (builtin : middle.host.services.Builtin) (running : middle.machine.halted = false)
    (fetched : middle.machine.fetch middle.machine.ip = .ok .input)
    (logged : ∀ log outlet trace source, (middle.beside log outlet trace source).machine.logStep .input =
      (middle.beside (log.record repeated) outlet trace source).machine)
    (abreast : late.Abreast outlet)
    (honest : ∀ ahead fault, late.writeFault ahead = some fault → ¬fault.Starves)
    (leftLog rightLog : StepLog UInt8) (leftTrace rightTrace : Array StreamEvent) (input : Bytes)
    (more : Nat) (whole : Outlet) :
    Option.Rel
      (Ended.Coupled
        (level (leftLog.record repeated) (rightLog.record repeated) leftTrace rightTrace).Worlds)
      (Run.close late (Run.steps more (middle.beside leftLog late leftTrace (.ofBytes input))))
      (Run.close whole (Run.steps more (middle.beside rightLog outlet rightTrace (.ofBytes input)))) := by
  have runs (log : StepLog UInt8) (outlet : Outlet) (trace : Array StreamEvent) :
      (middle.beside log outlet trace (.ofBytes input)).machine.halted = false := running
  have fetches (log : StepLog UInt8) (outlet : Outlet) (trace : Array StreamEvent) :
      (middle.beside log outlet trace (.ofBytes input)).machine.fetch
        (middle.beside log outlet trace (.ofBytes input)).machine.ip = .ok .input := fetched
  cases more with
  | zero =>
      rw [Run.steps_zero, Run.steps_zero, runs, runs]
      exact .none
  | succ more =>
      have lockstep : Run.Lockstep
          (level (leftLog.record repeated) (rightLog.record repeated) leftTrace rightTrace).Worlds
          fun _ => True := Pace.lockstep rfl
      have related :
          (level (leftLog.record repeated) (rightLog.record repeated) leftTrace rightTrace).Worlds
            (middle.beside (leftLog.record repeated) late leftTrace (.ofBytes input))
            (middle.beside (rightLog.record repeated) outlet rightTrace (.ofBytes input)) :=
        ⟨_, outlet, _, _, rfl,
          { builtin
            log := ⟨[], rfl, rfl⟩
            attached := ⟨late, rfl, abreast, honest⟩
            trace := ⟨[], [], Array.append_empty.symm, Array.append_empty.symm, rfl⟩
            source := ⟨input, rfl, congrArg _ (List.append_nil input).symm⟩ }⟩
      rw [Run.steps_succ_of_running more (runs _ _ _), Run.steps_succ_of_running more (runs _ _ _)]
      apply lockstep.close
      apply Run.Matched.bind
      · apply lockstep.step_fetched (fetches _ _ _) (fetches _ _ _)
        · rw [logged, logged]
          exact related
        · intro _
          rw [logged, logged]
          exact lockstep.read related
      · intro _ _ left right _ still
        exact lockstep.steps still more

/-- How a run that was taken up again ended, against the single run that had all of the input: with the
same fault but for the number of the step, with the same machine but for its log, and with the same
surroundings but for the calls on the streams. Both put out the same further bytes and logged the same
further entries. -/
structure Ended.Completes (first : Ended) (world : World) (written : Bytes)
    (before : List (StepLog.Report UInt8)) (repeated : StepLog.Report UInt8)
    (second single : Ended) : Prop where
  fault : second.fault.map Fault.unnumbered = single.fault.map Fault.unnumbered
  machine : { single.world.machine with
      log := second.world.machine.log
      attached := second.world.machine.attached } = second.world.machine
  source : single.world.source = second.world.source
  host : { single.world.host with trace := second.world.host.trace } = second.world.host
  output : ∃ later, second.world.host.output = first.world.host.output ++ later ∧
    single.world.host.output = world.host.output ++ (written ++ later)
  log : ∃ after, second.world.machine.log = first.world.machine.log.recordAll (repeated :: after) ∧
    single.world.machine.log = world.machine.log.recordAll (before ++ repeated :: after)

theorem Ended.rel_mono {relation weaker : Ended → Ended → Prop} {left right : Option Ended}
    (implies : ∀ left right, relation left right → weaker left right)
    (related : Option.Rel relation left right) : Option.Rel weaker left right := by
  cases related with
  | none => exact .none
  | some holds => exact .some (implies _ _ holds)

theorem Ended.Coupled.completes {pace : Pace} {world : World} {first second single : Ended}
    {written : Bytes} {before : List (StepLog.Report UInt8)} {repeated : StepLog.Report UInt8}
    (coupled : Ended.Coupled pace.Worlds second single) (complete : pace.further = [])
    (leftTrace : pace.leftTrace = first.world.host.trace)
    (rightTrace : pace.rightTrace.toList.flatMap StreamEvent.output = world.host.output ++ written)
    (leftLog : pace.leftLog = first.world.machine.log.record repeated)
    (rightLog : pace.rightLog = world.machine.log.recordAll (before ++ [repeated])) :
    first.Completes world written before repeated second single := by
  rcases coupled with ⟨⟨log, outlet, trace, source, same, beside⟩, fault⟩
  refine ⟨fault, ?_, ?_, ?_, ?_, ?_⟩
  · exact congrArg (fun world : World => { world.machine with
      log := second.world.machine.log, attached := second.world.machine.attached }) same
  · rcases beside.source with ⟨input, secondSource, rfl⟩
    have singleSource : single.world.source = .ofBytes (input ++ pace.further) :=
      congrArg World.source same
    rw [singleSource, complete, List.append_nil]
    exact secondSource.symm
  · exact congrArg (fun world : World => { world.host with trace := second.world.host.trace }) same
  · rcases beside.trace with ⟨added, others, secondTrace, rfl, together⟩
    have singleTrace : single.world.host.trace = pace.rightTrace ++ others.toArray :=
      congrArg (·.host.trace) same
    have secondEnds : second.world.host.trace = first.world.host.trace ++ added.toArray := by
      rw [← leftTrace]
      exact secondTrace
    refine ⟨added.flatMap StreamEvent.output, ?_, ?_⟩
    · rw [Host.output_eq, Host.output_eq, secondEnds, Array.toList_append, List.flatMap_append]
    · rw [Host.output_eq, singleTrace, Array.toList_append, List.flatMap_append, rightTrace, together,
        List.append_assoc]
  · rcases beside.log with ⟨after, secondLog, rfl⟩
    have singleLog : single.world.machine.log = pace.rightLog.recordAll after :=
      congrArg (·.machine.log) same
    refine ⟨after, ?_, ?_⟩
    · rw [leftLog] at secondLog
      exact secondLog
    · rw [singleLog, rightLog, ← StepLog.record_all_append, List.append_assoc]
      rfl

/-- A run on the first part of the input that fails because the input ends, followed by a run on the rest,
comes to what one run on all of the input comes to, whatever that is. The second run may go on with the
outlet that the first one left, or with any other that takes writes in the same way. -/
theorem input_in_pieces {world : World} {given further : Bytes} {early whole : Outlet} {fuel : Nat}
    {first : Ended} {fault : Fault} (builtin : world.host.services.Builtin)
    (abreast : early.Abreast whole)
    (honest : ∀ ahead fault, early.writeFault ahead = some fault → ¬fault.Starves)
    (ran : Run.run fuel early (world.given given) = some first)
    (failed : first.fault = some fault) (starves : fault.Starves) :
    ∃ lead written before repeated,
      first.world.host.output = world.host.output ++ written ∧
      first.world.machine.log = world.machine.log.recordAll (before ++ [repeated]) ∧
      repeated.instruction = some "," ∧ repeated.ip = some first.world.machine.ip ∧
      first.outlet.Abreast first.outlet ∧
      ∀ late : Outlet, late.Abreast first.outlet → ∀ more,
        Option.Rel (first.Completes world written before repeated)
          (Run.run more late (first.world.given further))
          (Run.run (lead + more) whole (world.given (given ++ further))) := by
  have beginning : Pace.Worlds
      { leftLog := world.machine.log, rightLog := world.machine.log, leftTrace := world.host.trace,
        rightTrace := world.host.trace, further }
      ((world.given given).attach early) ((world.given (given ++ further)).attach whole) :=
    ⟨_, whole, _, _, rfl,
      { builtin
        log := ⟨[], rfl, rfl⟩
        attached := ⟨early, rfl, abreast, honest⟩
        trace := ⟨[], [], (Array.append_empty).symm, (Array.append_empty).symm, rfl⟩
        source := ⟨given, rfl, rfl⟩ }⟩
  -- both runs reach the read that finds no byte; only the second one gets past it
  obtain ⟨runs, lead, middle, log, outlet, trace, other, events, reached, beside, running, fetched,
    attached, left, silent, paused⟩ := beginning.run_starved ran failed starves
  rcases beside.log with ⟨before, middleLog, rfl⟩
  rcases beside.trace with ⟨added, others, middleTrace, rfl, together⟩
  rcases beside.attached with ⟨channel, here, level, sincere⟩
  obtain rfl : channel = other := Option.some.inj (here.symm.trans attached)
  have leveled : first.outlet.Abreast outlet := by
    rw [left]
    exact level.flush.1.flush.1
  have reused : first.outlet.Abreast first.outlet :=
    ⟨rfl, fun _ => rfl, leveled.leftFlushable, leveled.leftFlushable⟩
  obtain ⟨repeated, text, place, once, logged⟩ := middle.logs_beside .input
  have firstLog : first.world.machine.log = middle.machine.log.record repeated :=
    (congrArg (·.machine.log) (paused early further)).trans once
  have firstTrace : first.world.host.trace = middle.host.trace ++ events.toArray :=
    congrArg (·.host.trace) (paused early further)
  have firstIp : first.world.machine.ip = middle.machine.ip :=
    congrArg (·.machine.ip) (paused early further)
  have firstRuns : (first.world.given further).machine.halted = false :=
    (congrArg (·.machine.halted) (paused early further)).trans running
  have firstServices : (first.world.given further).host.services = middle.host.services :=
    congrArg (·.host.services) (paused early further)
  have firstBuiltin : (first.world.given further).host.services.Builtin := by
    rw [firstServices]
    exact beside.builtin
  have startBuiltin : (world.given (given ++ further)).host.services.Builtin := builtin
  refine ⟨lead, others.flatMap StreamEvent.output, before, repeated, ?_, ?_, text, ?_, reused, ?_⟩
  · rw [Host.output_eq, Host.output_eq, firstTrace, middleTrace, ← together]
    simp [silent]
  · rw [firstLog, middleLog, StepLog.record_all_append]
    rfl
  · rw [firstIp, place]
  · intro late again more
    -- the call that resumes repeats the read, and the longer run takes it for the first time
    have ahead := again.trans leveled
    have lateHonest : ∀ call fault, late.writeFault call = some fault → ¬fault.Starves := by
      intro call fault found
      exact sincere call fault
        ((level.writeFault call).trans ((ahead.writeFault call).symm.trans found))
    rw [Run.run_of_running more late firstBuiltin firstRuns,
      Run.run_of_running (lead + more) whole startBuiltin runs, paused, Run.steps_add, reached]
    apply Ended.rel_mono ?_ (Pace.resumed beside.builtin running fetched logged ahead lateHonest _ _ _ _
      further more whole)
    intro second single coupled
    apply coupled.completes rfl
    · exact firstTrace.symm
    · change (world.host.trace ++ others.toArray).toList.flatMap _ = _
      rw [Host.output_eq, Array.toList_append, List.flatMap_append]
    · rw [firstLog, ← once]
      rfl
    · rw [StepLog.record_all_append]
      rfl

def includeThenEcho : Setup where
  program := [.command "include a", .input, .output, .input]
  files := .uniform (.bytes [91, 46, 45, 93])

/-- A program that includes a loop, puts out the first byte and is starved of the second. -/
theorem included_loop_input_in_pieces :
    ∃ (world : World) (first : Ended),
      world.machine.program = #[.command "include a", .input, .output, .input] ∧
      Run.run 20 (.direct {}) (world.given [2]) = some first ∧
      first.fault = some (.runtime
        { cause := .inputEnded, ip := some 3, rule := some "input", step := some 5 }) ∧
      first.world.host.output = [2] ∧
      (Run.run 9 first.outlet (first.world.given [1])).map (·.world.host.output) = some [2, 1] ∧
      ∃ lead written before repeated,
        first.world.machine.log = world.machine.log.recordAll (before ++ [repeated]) ∧
        repeated.instruction = some "," ∧
        Option.Rel (first.Completes world written before repeated)
          (Run.run 9 first.outlet (first.world.given [1]))
          (Run.run (lead + 9) (.direct {}) (world.given [2, 1])) := by
  have steady : Outlet.Abreast (.direct {}) (.direct {}) :=
    ⟨rfl, fun _ => rfl, fun _ _ => rfl, fun _ _ => rfl⟩
  have honest : ∀ ahead fault, Outlet.writeFault (.direct {}) ahead = some fault → ¬fault.Starves := by
    simp [Outlet.writeFault, Outlet.channel?]
  have ran : (Run.run 20 (.direct {}) (includeThenEcho.world.given [2])).map
      (fun first => (first.fault, first.world.host.output,
        (Run.run 9 first.outlet (first.world.given [1])).map (·.world.host.output))) =
      some (some (.runtime
        { cause := .inputEnded, ip := some 3, rule := some "input", step := some 5 }), [2],
        some [2, 1]) := by
    decide +kernel
  obtain ⟨first, started, shown⟩ := Option.map_eq_some_iff.mp ran
  simp only [Prod.mk.injEq] at shown
  obtain ⟨failed, output, completed⟩ := shown
  obtain ⟨lead, written, before, repeated, -, logged, instruction, -, reused, completes⟩ :=
    input_in_pieces (includeThenEcho.builtin rfl) steady honest started failed rfl
  exact ⟨_, first, rfl, started, failed, output, completed, lead, written, before, repeated, logged,
    instruction, completes first.outlet reused 9⟩

end TapeLang
