import TapeLang.Proofs.Machine.Outcome
import TapeLang.Proofs.Machine.Resumption

/-!
What a failing instruction leaves behind. On a machine with the built-in commands only, whose outlet does
not fail, an instruction that fails has changed nothing but the log and the skipped paths. A fault that
says where it arose names the place of that instruction, unless the source raised it with a place of its
own.
-/

namespace TapeLang

/-- Only notes were made between the two worlds: log entries that name the place, and skipped paths. The
outlet may have been called. -/
structure World.Aside (before after : World) : Prop where
  machine : ∃ attached, after.machine =
    { before.machine with log := after.machine.log, skipped := after.machine.skipped, attached }
  log : ∃ reports, after.machine.log = before.machine.log.recordAll reports ∧
    ∀ report ∈ reports, report.ip = some before.machine.ip
  skipped : before.machine.skipped.toList <+: after.machine.skipped.toList

namespace World.Aside

theorem of_machine {before after : World} (attached : Option Outlet)
    (same : after.machine = { before.machine with attached }) : before.Aside after where
  machine := ⟨attached, by rw [same]⟩
  log := ⟨[], by rw [same]; rfl, nofun⟩
  skipped := by
    rewrite [same]
    exact List.prefix_refl _

theorem refl (world : World) : world.Aside world := of_machine world.machine.attached rfl

theorem ip_eq {before after : World} (aside : before.Aside after) :
    after.machine.ip = before.machine.ip := by
  obtain ⟨attached, machine⟩ := aside.machine
  rw [machine]

theorem trans {first second third : World} (before : first.Aside second)
    (after : second.Aside third) : first.Aside third where
  machine := by
    obtain ⟨_, early⟩ := before.machine
    obtain ⟨attached, late⟩ := after.machine
    exact ⟨attached, by rw [late, early]⟩
  log := by
    obtain ⟨early, firstLog, firstPlace⟩ := before.log
    obtain ⟨late, secondLog, secondPlace⟩ := after.log
    refine ⟨early ++ late, ?_, ?_⟩
    · rw [secondLog, firstLog, StepLog.record_all_append]
    · intro report found
      rcases List.mem_append.mp found with earlier | later
      · exact firstPlace report earlier
      · rw [secondPlace report later, before.ip_eq]
  skipped := before.skipped.trans after.skipped

theorem log_report (world : World) {report : StepLog.Report UInt8}
    (here : report.ip = some world.machine.ip) :
    world.Aside { world with machine := world.machine.logReport report } where
  machine := ⟨world.machine.attached, rfl⟩
  log := ⟨[report], rfl, by simp [here]⟩
  skipped := List.prefix_refl _

end World.Aside

structure StepLog.EndsAt (place : Int) (log : StepLog Cell) (entry : LogEntry Cell) : Prop where
  last : log.last? = some entry
  ip : entry.ip = some place
  step : entry.step = log.next - 1

namespace StepLog

theorem record_ends_at (log : StepLog Cell) (kept : 0 < log.limit) {report : Report Cell} {place : Int}
    (here : report.ip = some place) : (log.record report).EndsAt place (log.entryFor report) where
  last := by
    obtain ⟨limit, positive⟩ := Nat.exists_eq_succ_of_ne_zero (Nat.ne_of_gt kept)
    unfold record last? push
    cases log.slack <;> simp [positive]
  ip := here
  step := (Int.add_sub_cancel log.next 1).symm

theorem record_all_ends_at {log : StepLog Cell} (kept : 0 < log.limit) {first : Report Cell}
    {rest : List (Report Cell)} {place : Int}
    (here : ∀ report ∈ first :: rest, report.ip = some place) :
    ∃ entry, (log.recordAll (first :: rest)).EndsAt place entry := by
  induction rest generalizing log first with
  | nil => exact ⟨_, log.record_ends_at kept (here first List.mem_cons_self)⟩
  | cons second rest ih =>
      have still : 0 < (log.record first).limit := by
        rw [limit_record]
        exact kept
      exact ih still fun report found => here report (List.mem_cons_of_mem first found)

end StepLog

/-- A runtime fault of an instruction leaves its place open or names the place of the instruction. Only a
read can raise one that names another place, when the source does so. -/
def World.Places (world : World) (instruction : Instruction) (fault : Fault) : Prop :=
  ∀ runtime, fault = .runtime runtime →
    runtime.ip = none ∨ runtime.ip = some world.machine.ip ∨
      (instruction = .input ∧ world.source.take.1 = .failure (.runtime runtime))

def World.Steady (world : World) : Prop :=
  ∀ outlet, world.machine.attached = some outlet → outlet.Steady

theorem World.Steady.called {world : World} {called : Called Outlet} (steady : called.stream.Steady) :
    (world.called called).Steady := by
  intro outlet same
  cases same
  exact steady

namespace Run

section Steady

variable {world : World}

theorem yields_emit_steady (steady : world.Steady) (bytes : Bytes) :
    Yields (emit bytes) world (fun _ after => after.Steady) fun _ _ => False := by
  rw [yields_emit]
  refine ⟨fun _ => steady, ?_⟩
  intro outlet attached
  obtain ⟨passes, still⟩ := (steady outlet attached).write bytes
  rw [yields_settle, passes]
  exact ⟨fun _ => .called still, nofun⟩

theorem yields_flush_steady (steady : world.Steady) :
    Yields flush world
      (fun _ after => after.Steady ∧ after.source = world.source ∧
        ∃ attached, after.machine = { world.machine with attached })
      fun _ _ => False := by
  rw [yields_flush]
  refine ⟨fun _ => ⟨steady, rfl, world.machine.attached, rfl⟩, ?_⟩
  intro outlet attached
  obtain ⟨passes, still⟩ := (steady outlet attached).flush
  rw [yields_settle, passes]
  exact ⟨fun _ => ⟨.called still, rfl, _, rfl⟩, nofun⟩

theorem yields_read_byte_steady (steady : world.Steady) :
    Yields readByte world (fun _ after => world.Aside after ∧ after.Steady)
      fun fault after => (world.Aside after ∧ after.Steady) ∧
        byteOf world.source.take.1 = .error fault := by
  rw [yields_read_byte]
  apply (yields_flush_steady steady).mono ?_ fun _ _ => False.elim
  rintro _ flushed ⟨still, source, attached, machine⟩
  have aside : world.Aside flushed.afterRead := .of_machine attached machine
  rw [source]
  exact ⟨fun _ _ => ⟨aside, still⟩, fun fault raised => ⟨⟨aside, still⟩, raised⟩⟩

theorem primitives_keep_steady : PrimitivesKeep World.Steady where
  machine steady same := by
    intro outlet attached
    exact steady outlet (same.attached.symm.trans attached)
  remark _ _ steady := steady
  register steady _ := steady
  emit bytes world steady :=
    (yields_emit_steady steady bytes).mono (fun _ _ still => still) fun _ _ => False.elim
  read world steady :=
    (yields_read_byte_steady steady).mono (fun _ _ still => still.2) fun _ _ still => still.1.2

end Steady

section Failing

variable {world : World}

theorem yields_update_cell_fails (change : UInt8 → UInt8) :
    Yields (updateCell change) world (fun _ _ => True)
      fun fault after => world.Aside after ∧ ∃ cause, fault = .index cause := by
  unfold updateCell
  simp only [yields_bind, yields_machine, yields_lift]
  constructor
  · intro cell _
    exact ⟨fun _ _ => trivial, fun cause _ => ⟨.refl world, cause, rfl⟩⟩
  · intro cause _
    exact ⟨.refl world, cause, rfl⟩

theorem yields_write_cell_fails (byte : UInt8) :
    Yields (writeCell byte) world (fun _ _ => True)
      fun fault after => world.Aside after ∧ ∃ cause, fault = .index cause := by
  unfold writeCell
  simp only [yields_bind, yields_machine, yields_lift]
  exact ⟨fun _ _ => trivial, fun cause _ => ⟨.refl world, cause, rfl⟩⟩

theorem yields_read_cell_fails :
    Yields readCell world (fun _ after => after = world)
      fun fault after => world.Aside after ∧ ∃ cause, fault = .index cause := by
  unfold readCell
  simp only [yields_bind, yields_machine, yields_lift]
  exact ⟨fun _ _ => trivial, fun cause _ => ⟨.refl world, cause, rfl⟩⟩

theorem yields_counted_fails (count : Nat) (kind : Counted) :
    Yields (execCounted count kind) world (fun _ _ => True)
      fun fault after => world.Aside after ∧ ∃ cause, fault = .index cause := by
  cases kind with
  | increment => exact yields_update_cell_fails _
  | decrement => exact yields_update_cell_fails _
  | shiftLeft => trivial
  | shiftRight => trivial

theorem yields_skip_file_aside (path : String) (fault : FileFault) :
    Yields (skipFile path fault) world (fun _ after => world.Aside after) fun _ _ => False where
  machine := ⟨world.machine.attached, rfl⟩
  log := ⟨[_], rfl, by simp⟩
  skipped := by
    change _ <+: (world.machine.skipped.push path).toList
    rw [Array.toList_push]
    exact List.prefix_append _ _

theorem yields_load_files_fails (loaded : List Instruction) (paths : List String) :
    Yields (loadFiles loaded paths) world (fun _ _ => True)
      fun fault after => world.Aside after ∧ ∀ runtime, fault ≠ .runtime runtime := by
  induction paths generalizing loaded world with
  | nil => trivial
  | cons path rest ih =>
      rw [loadFiles, yields_bind, yields_get]
      cases opened : world.host.files.read path with
      | ok source =>
          rw [yields_bind, yields_lift]
          constructor
          · intro fragment _
            rw [yields_bind, yields_modify_machine]
            apply (ih (loaded ++ relocate loaded.length fragment)).mono (fun _ _ => id)
            rintro fault after ⟨aside, foreign⟩
            exact ⟨(World.Aside.log_report world rfl).trans aside, foreign⟩
          · intro fault _
            refine ⟨.refl world, ?_⟩
            intro runtime same
            cases same
      | error fault =>
          rcases read_error opened with ⟨reason, rfl⟩ | ⟨-, rfl⟩
          · apply (yields_skip_file_aside path reason).bind_sure
            intro _ middle skipped
            apply (ih loaded).mono (fun _ _ => id)
            rintro fault after ⟨aside, foreign⟩
            exact ⟨skipped.trans aside, foreign⟩
          · refine ⟨.refl world, ?_⟩
            intro runtime same
            cases same

theorem resolve_error_place {registry : Registry} {text : String} {ip : Int} {fault : RuntimeFault}
    (refused : resolve registry text ip = .error fault) : fault.ip = some ip := by
  rcases resolve_cases registry text with ⟨-, refuses⟩ | ⟨spec, -, ⟨-, refuses⟩ | ⟨-, resolves⟩⟩
  · cases (refuses ip).symm.trans refused
    rfl
  · cases (refuses ip).symm.trans refused
    rfl
  · cases (resolves ip).symm.trans refused

theorem yields_command_fails (text : String) (builtin : world.host.services.Builtin)
    (steady : world.Steady) :
    Yields (command text world.machine.ip) world (fun _ _ => True)
      fun fault after => world.Aside after ∧
        ∀ runtime, fault = .runtime runtime → runtime.ip = some world.machine.ip := by
  unfold Yields
  rw [command_eq_builtin_command text _ builtin]
  change Yields (builtinCommand text _) world _ _
  rw [builtinCommand, yields_bind, yields_get, yields_bind, yields_lift]
  constructor
  · intro spec _
    cases spec.handler with
    | includeFiles =>
        rw [includeFiles, yields_bind]
        apply (yields_load_files_fails [] _).mono (fun _ _ _ => trivial)
        rintro fault after ⟨aside, foreign⟩
        exact ⟨aside, fun runtime same => (foreign runtime same).elim⟩
    | clearTape =>
        rw [clearTape, yields_bind, yields_modify_machine]
        have cleared : World.Steady { world with machine := world.machine.resetTape } := steady
        exact (yields_emit_steady cleared _).mono (fun _ _ _ => trivial) fun _ _ => False.elim
    | script actions => trivial
  · intro refused raised
    refine ⟨.refl world, ?_⟩
    intro runtime same
    cases same
    exact resolve_error_place raised

theorem byte_of_error_place {delivery : Delivery} {runtime : RuntimeFault}
    (raised : byteOf delivery = .error (.runtime runtime)) :
    runtime.ip = none ∨ delivery = .failure (.runtime runtime) := by
  unfold byteOf at raised
  split at raised
  · cases raised
  · split at raised <;> cases raised
  · cases raised
    exact .inl rfl
  · cases raised
    exact .inl rfl
  · cases raised
    exact .inr rfl

/-- An instruction that fails leaves only notes, and its fault names no other place. -/
theorem yields_exec_fails (instruction : Instruction) (builtin : world.host.services.Builtin)
    (steady : world.Steady) :
    Yields (exec instruction world.machine.ip) world (fun _ _ => True)
      fun fault after => world.Aside after ∧ world.Places instruction fault := by
  have indexed {fault : Fault} {after : World}
      (failed : world.Aside after ∧ ∃ cause, fault = .index cause) :
      world.Aside after ∧ world.Places instruction fault := by
    obtain ⟨aside, cause, rfl⟩ := failed
    exact ⟨aside, nofun⟩
  cases instruction with
  | counted kind count =>
      rw [exec, yields_bind]
      exact (yields_counted_fails count kind).mono (fun _ _ _ => trivial) fun _ _ => indexed
  | output =>
      rw [exec, yields_bind]
      apply yields_read_cell_fails.mono ?_ fun _ _ => indexed
      rintro cell _ rfl
      rw [yields_bind]
      exact (yields_emit_steady steady _).mono (fun _ _ _ => trivial) fun _ _ => False.elim
  | input =>
      rw [exec, yields_bind]
      apply (yields_read_byte_steady steady).mono
      · rintro byte middle ⟨aside, -⟩
        rw [yields_bind]
        apply (yields_write_cell_fails byte).mono (fun _ _ _ => trivial)
        rintro fault after ⟨still, cause, rfl⟩
        exact ⟨aside.trans still, nofun⟩
      · rintro fault after ⟨⟨aside, -⟩, raised⟩
        refine ⟨aside, ?_⟩
        rintro runtime rfl
        rcases byte_of_error_place raised with unplaced | given
        · exact .inl unplaced
        · exact .inr (.inr ⟨rfl, given⟩)
  | loopStart target =>
      cases target with
      | none =>
          refine ⟨.refl world, ?_⟩
          intro runtime same
          cases same
          exact .inr (.inl rfl)
      | some target =>
          rw [exec, yields_bind]
          exact yields_read_cell_fails.mono (fun _ _ _ => trivial) fun _ _ => indexed
  | loopEnd start =>
      rw [exec, yields_bind]
      exact yields_read_cell_fails.mono (fun _ _ _ => trivial) fun _ _ => indexed
  | command text =>
      rw [exec, yields_bind]
      apply (yields_command_fails text builtin steady).mono (fun _ _ _ => trivial)
      rintro fault after ⟨aside, placed⟩
      exact ⟨aside, fun runtime same => .inr (.inl (placed runtime same))⟩
  | foreign text =>
      refine ⟨.refl world, ?_⟩
      intro runtime same
      cases same
      exact .inr (.inl rfl)

theorem step_fails {after : World} {instruction : Instruction} {fault : Fault}
    (builtin : world.host.services.Builtin) (steady : world.Steady) (kept : 0 < world.machine.log.limit)
    (fetched : world.machine.fetch world.machine.ip = .ok instruction)
    (failed : step world = .error fault after) :
    world.Aside after ∧ (∃ entry, after.machine.log.EndsAt world.machine.ip entry) ∧
      world.Places instruction fault := by
  let logged : World := { world with machine := world.machine.logStep instruction }
  have noted : world.Aside logged := .log_report world rfl
  have stepped : Yields step world (fun _ _ => True)
      fun fault after => logged.Aside after ∧ logged.Places instruction fault := by
    rw [yields_step fetched]
    exact @yields_exec_fails logged instruction builtin steady
  obtain ⟨aside, places⟩ := stepped.of_error failed
  refine ⟨noted.trans aside, ?_, places⟩
  -- the step was logged first, so there is an entry even when the instruction logs nothing
  obtain ⟨reports, log, here⟩ := aside.log
  rw [log]
  apply StepLog.record_all_ends_at kept
  intro report found
  rcases List.mem_cons.mp found with rfl | later
  · rfl
  · exact here report later

end Failing

theorem steps_error {fuel : Nat} {world after : World} {fault : Fault}
    (failed : steps fuel world = .error fault after) :
    ∃ count before, steps count world = .ok false before ∧ before.machine.halted = false ∧
      step before = .error fault after := by
  induction fuel generalizing world with
  | zero => cases failed
  | succ fuel ih =>
      cases halted : world.machine.halted with
      | true =>
          rw [steps_succ_of_halted fuel halted] at failed
          cases failed
      | false =>
          rw [steps_succ_of_running fuel halted, bind_eq] at failed
          cases stepped : step world with
          | error early left =>
              rw [stepped] at failed
              cases failed
              exact ⟨0, world, by rw [steps_zero, halted], halted, stepped⟩
          | ok _ middle =>
              rw [stepped] at failed
              obtain ⟨count, before, led, running, fails⟩ := ih failed
              refine ⟨count + 1, before, ?_, running, fails⟩
              rw [steps_succ_of_running count halted, bind_eq, stepped]
              exact led

theorem primitives_keep_limit (limit : Nat) :
    PrimitivesKeep fun world => world.machine.log.limit = limit where
  machine holds same := same.limit.trans holds
  remark _ _ holds := holds
  register holds _ := holds
  emit := keeps_emit (fun _ _ holds => holds) fun _ _ holds => holds
  read := keeps_read_byte (fun _ _ holds => holds) fun _ holds => holds

theorem ending_of_builtin {fuel : Nat} {outlet : Outlet} {world : World} {ended : Ended}
    (builtin : world.host.services.Builtin) (ran : run fuel outlet world = some ended)
    (running : world.machine.halted = false) :
    ∃ failure executed, steps fuel (world.attach outlet) = stopped failure executed ∧
      ended = ending outlet failure executed := by
  apply ending_of_silent ran running
  rw [(run_later builtin ran).services]
  exact builtin.silent

/-- The end of a run changes nothing but what is attached to the machine and the record of stream
calls. -/
theorem ending_frame (outlet : Outlet) (failure : Option Fault) (world : World) :
    ∃ attached trace, (ending outlet failure world).world =
      { world with
        machine := { world.machine with attached }
        host := { world.host with trace } } := by
  unfold ending
  rw [flush_eq]
  cases world.machine.attached with
  | none => exact ⟨none, _, rfl⟩
  | some other =>
      dsimp only
      rw [settle_eq]
      cases other.flush.fault with
      | none => exact ⟨none, _, rfl⟩
      | some fault => exact ⟨some other.flush.stream, _, rfl⟩

theorem ending_machine (outlet : Outlet) (failure : Option Fault) (world : World) :
    ∃ attached, (ending outlet failure world).world.machine = { world.machine with attached } := by
  obtain ⟨attached, _, same⟩ := ending_frame outlet failure world
  exact ⟨attached, by rw [same]⟩

/-- A fault is reported with the step of the latest entry, and with the place where the machine stands if
it came without one. -/
theorem reported_place {machine : Machine} {entry : LogEntry UInt8} {raised : Fault}
    {runtime : RuntimeFault} (last : machine.log.last? = some entry)
    (same : reported machine raised = .runtime runtime) :
    runtime.step = some entry.step ∧
      (runtime.ip = some machine.ip ∨
        ∃ own place, raised = .runtime own ∧ own.ip = some place ∧ runtime.ip = some place) := by
  cases raised with
  | runtime own =>
      cases same
      refine ⟨by simp [locate, last], ?_⟩
      cases given : own.ip with
      | none => exact .inl (by simp [locate, given])
      | some place => exact .inr ⟨own, place, rfl, given, by simp [locate, given]⟩
  | program text => cases same
  | badSyntax fault => cases same
  | _ =>
      cases same
      exact ⟨by simp [locate, last], .inl rfl⟩

end Run

theorem World.Steady.flush_fault {world : World} (steady : world.Steady) : world.flushFault = none := by
  unfold World.flushFault
  cases attached : world.machine.attached with
  | none => rfl
  | some outlet => exact (steady outlet attached).flush.1

/-- The run ended because the instruction at the index failed, and is left as the instruction found it but
for notes. What leaves the run is what the instruction raised. -/
structure Ended.Fails (ended : Ended) (before : World) (index : Nat) (instruction : Instruction)
    (fault : Fault) : Prop where
  ip : before.machine.ip = index
  program : before.machine.program.toList[index]? = some instruction
  raised : ∃ raised left, Run.step before = .error raised left ∧
    fault = Run.reported left.machine raised
  machine : ∃ attached, ended.world.machine =
    { before.machine with
      log := ended.world.machine.log, skipped := ended.world.machine.skipped, attached }
  log : ∃ reports, ended.world.machine.log = before.machine.log.recordAll reports
  skipped : before.machine.skipped.toList <+: ended.world.machine.skipped.toList

/-- The fault names the place and the latest step. The place is that of the instruction and of the latest
log entry, unless the source raised the fault and gave it another. -/
structure Ended.Locates (ended : Ended) (before : World) (index : Nat) (instruction : Instruction)
    (fault : RuntimeFault) (place : Int) (entry : LogEntry UInt8) : Prop where
  latest : ended.world.machine.log.EndsAt index entry
  step : fault.step = some entry.step
  ip : fault.ip = some place
  here : place = index ∨ instruction = .input ∧
    ∃ own, before.source.take.1 = .failure (.runtime own) ∧ own.ip = some place

theorem World.StandsBehind.found {front : List Instruction} {world : World}
    (standing : world.StandsBehind front)
    (running : world.machine.halted = false) :
    ∃ (index : Nat) (instruction : Instruction), world.machine.ip = index ∧
      world.machine.program.toList[index]? = some instruction ∧
      world.machine.fetch world.machine.ip = .ok instruction := by
  obtain ⟨index, here, -, -⟩ := standing.ip
  have inside : index < world.machine.program.toList.length := by
    have bound := Machine.halted_eq_false.mp running
    omega
  have found := List.getElem?_eq_getElem inside
  refine ⟨index, _, here, found, ?_⟩
  rw [here]
  exact world.machine.fetch_inside found

namespace World.StandsBehind

variable {kept : World → Prop} {world : World} {outlet : Outlet}

theorem steps_keep
    (keeps : ∀ {world : World}, kept world → world.StandsBehind [] → world.machine.halted = false →
      Run.Yields Run.step world (fun _ after => kept after) fun _ after => kept after)
    (standing : world.StandsBehind []) (mutes : world.Mutes outlet) (holds : kept world) (fuel : Nat) :
    Run.Yields (Run.steps fuel) world (fun _ after => kept after) fun _ after => kept after := by
  induction fuel generalizing world with
  | zero => exact holds
  | succ fuel ih =>
      cases halted : world.machine.halted with
      | true =>
          rw [Run.yields_steps_of_halted fuel halted]
          exact holds
      | false =>
          rw [Run.yields_steps_of_running fuel halted]
          apply ((keeps holds standing halted).and (standing.step .nil mutes halted)).mono
          · rintro _ middle ⟨still, stands, stillMutes⟩
            exact ih stands stillMutes still
          · intro fault after still
            exact still

theorem run_keep
    (outside : ∀ {world : World} (attached : Option Outlet) (trace : Array StreamEvent), kept world →
      kept { world with
        machine := { world.machine with attached }
        host := { world.host with trace } })
    (keeps : ∀ {world : World}, kept world → world.StandsBehind [] → world.machine.halted = false →
      Run.Yields Run.step world (fun _ after => kept after) fun _ after => kept after)
    (standing : world.StandsBehind []) (holds : kept world) {fuel : Nat} {ended : Ended}
    (ran : Run.run fuel outlet world = some ended) : kept ended.world := by
  cases halted : world.machine.halted with
  | true =>
      rw [Run.run_of_halted fuel outlet halted] at ran
      cases ran
      exact holds
  | false =>
      obtain ⟨failure, executed, stops, rfl⟩ := Run.ending_of_builtin standing.builtin ran halted
      have begins : kept (world.attach outlet) := outside (some outlet) world.host.trace holds
      have stepped :=
        steps_keep keeps (standing.attach outlet) (World.mutes_attach outlet world) begins fuel
      have executes : kept executed := by
        cases failure with
        | none => exact stepped.of_ok stops
        | some fault => exact stepped.of_error stops
      obtain ⟨attached, trace, same⟩ := Run.ending_frame outlet failure executed
      rw [same]
      exact outside attached trace executes

end World.StandsBehind

namespace Run

theorem ending_fails (outlet : Outlet) {before left : World} {raised : Fault}
    (standing : before.StandsBehind [])
    (steady : before.Steady) (kept : 0 < before.machine.log.limit)
    (running : before.machine.halted = false) (fails : step before = .error raised left) :
    ∃ index instruction,
      (ending outlet (some raised) left).Fails before index instruction (reported left.machine raised) ∧
      ∀ runtime, reported left.machine raised = .runtime runtime →
        ∃ place entry,
          (ending outlet (some raised) left).Locates before index instruction runtime place entry := by
  obtain ⟨index, instruction, here, found, fetched⟩ := standing.found running
  obtain ⟨aside, ⟨entry, latest⟩, places⟩ := step_fails standing.builtin steady kept fetched fails
  obtain ⟨attached, ended⟩ := ending_machine outlet (some raised) left
  rw [here] at latest
  have log : (ending outlet (some raised) left).world.machine.log = left.machine.log := by rw [ended]
  refine ⟨index, instruction, ⟨here, found, ⟨raised, left, fails, rfl⟩, ?_, ?_, ?_⟩, ?_⟩
  · obtain ⟨other, machine⟩ := aside.machine
    exact ⟨attached, by rw [ended, machine]⟩
  · obtain ⟨reports, added, -⟩ := aside.log
    exact ⟨reports, log.trans added⟩
  · rw [ended]
    exact aside.skipped
  · intro runtime same
    obtain ⟨step, stands | ⟨own, place, rfl, given, named⟩⟩ := reported_place latest.last same
    · refine ⟨index, entry, log ▸ latest, step, ?_, .inl rfl⟩
      rw [stands, aside.ip_eq, here]
    · refine ⟨place, entry, log ▸ latest, step, named, ?_⟩
      -- the fault came with this place, so the instruction did not leave it open
      rcases places own rfl with unplaced | placed | ⟨reads, source⟩
      · cases unplaced.symm.trans given
      · rw [placed, here] at given
        cases given
        exact .inl rfl
      · exact .inr ⟨reads, own, source, given⟩

/-- A run that fails on an outlet that does not fail comes to an instruction that fails, which has no
effect, and a runtime fault is located there. -/
theorem run_fails {fuel : Nat} {outlet : Outlet} {world : World} {ended : Ended} {fault : Fault}
    (standing : world.StandsBehind []) (steady : outlet.Steady) (kept : 0 < world.machine.log.limit)
    (ran : run fuel outlet world = some ended) (failed : ended.fault = some fault) :
    ∃ count before index instruction,
      steps count (world.attach outlet) = .ok false before ∧
      ended.Fails before index instruction fault ∧
      ∀ runtime, fault = .runtime runtime →
        ∃ place entry, ended.Locates before index instruction runtime place entry := by
  cases halted : world.machine.halted with
  | true =>
      rw [run_of_halted fuel outlet halted] at ran
      cases ran
      cases failed
  | false =>
      have begins : (world.attach outlet).Steady := by
        intro other same
        cases same
        exact steady
      obtain ⟨failure, executed, stops, rfl⟩ := ending_of_builtin standing.builtin ran halted
      have ends := primitives_keep_steady.stopped begins stops
      rw [(ending_outcome outlet failure executed).2, ends.flush_fault] at failed
      cases failure with
      | none => cases failed
      | some raised =>
          cases failed
          obtain ⟨count, before, led, running, fails⟩ := steps_error stops
          have stands := (World.StandsBehind.steps .nil (standing.attach outlet)
            (World.mutes_attach outlet world) count).of_ok led
          have stillSteady := (primitives_keep_steady.steps count).of_ok begins led
          have limit : before.machine.log.limit = world.machine.log.limit :=
            ((primitives_keep_limit (world.attach outlet).machine.log.limit).steps count).of_ok rfl led
          rw [← limit] at kept
          obtain ⟨index, instruction, located⟩ :=
            ending_fails outlet stands.1 stillSteady kept running fails
          exact ⟨count, before, index, instruction, led, located⟩

end Run

end TapeLang
