import TapeLang.Proofs.Log.Chain
import TapeLang.Proofs.Machine.Inclusion
import TapeLang.Proofs.Machine.Tracing

/-!
How many entries a run adds to the log. A step adds one for its instruction, and a command that includes files
one for each argument that it skips or parses. Nothing else is logged, whatever commands are bound and whoever
listens; listeners can only make the log forget entries, and the numbering goes on.
-/

namespace TapeLang

namespace FileSystem

/-- Including gets past the path: no file opens there, which is skipped, or its file is parsed. -/
def passes (files : FileSystem) (path : String) : Bool :=
  (files.refusal? path).isSome || (files.fragment? path).isSome

def passed (files : FileSystem) (paths : List String) : List String := paths.takeWhile files.passes

theorem passed_cons (files : FileSystem) (path : String) (rest : List String) :
    files.passed (path :: rest) = if files.passes path then path :: files.passed rest else [] := by
  rw [passed, List.takeWhile_cons]
  rfl

end FileSystem

namespace Run

/-- The arguments that a command skips or parses when it includes files, as the listeners before it leave
them. -/
def included (text : String) (world : World) : List String :=
  match resolve world.host.services.commands text world.machine.ip with
  | .error _ => []
  | .ok spec =>
    match spec.handler,
      notify .beforeCommand (.beforeCommand (commandName text)) (commandArguments text) world with
    | .includeFiles, .ok arguments called => called.host.files.passed arguments
    | _, _ => []

end Run

namespace World

def dispatches (world : World) : Bool := (world.machine.fetch world.machine.ip).toOption.isSome

def included (world : World) : List String :=
  match world.machine.fetch world.machine.ip with
  | .ok (.command text) => Run.included text { world with machine := world.machine.logStep (.command text) }
  | _ => []

def entryCount (worlds : List World) : Nat := worlds.length + (worlds.flatMap included).length

theorem entry_count_cons (world : World) (rest : List World) :
    entryCount ((world :: rest).filter dispatches) =
      (if world.dispatches then 1 + world.included.length else 0) + entryCount (rest.filter dispatches) := by
  unfold entryCount
  rw [List.filter_cons]
  split
  case isTrue =>
    rw [List.flatMap_cons, List.length_append, List.length_cons]
    omega
  case isFalse => rw [Nat.zero_add]

def Logged (before : World) (count : Nat) (after : World) : Prop :=
  after.machine.log.next = before.machine.log.next + count

theorem logged_none (world : World) : world.Logged 0 world := (Int.add_zero _).symm

theorem Logged.trans {before middle after : World} {first second : Nat}
    (early : before.Logged first middle) (late : middle.Logged second after) :
    before.Logged (first + second) after := by
  unfold Logged at early late ⊢
  rw [late, early]
  omega

theorem logged_log_step (world : World) (instruction : Instruction) :
    world.Logged 1 { world with machine := world.machine.logStep instruction } := rfl

theorem logged_looked (world : World) (path : String) : world.Logged 1 (world.looked [path]) := rfl

end World

namespace Run

/-- The worlds from which a run dispatches its instructions. There are none when the machine has halted, or
when a listener refuses the run. -/
def dispatched (fuel : Nat) (outlet : Outlet) (world : World) : List World :=
  if world.machine.halted then []
  else
    match notify .programStart .programStart [] (world.attach outlet) with
    | .ok _ started => (visited fuel started).filter World.dispatches
    | .error _ _ => []

theorem number_kept_unlogged (number : Int) :
    UnloggedPrimitivesKeep fun world => world.machine.log.next = number where
  machine holds same := same.next.trans holds
  remark _ _ holds := holds
  register holds _ := holds
  emit := keeps_emit (fun _ _ holds => holds) fun _ _ holds => holds
  read := keeps_read_byte (fun _ _ holds => holds) fun _ holds => holds

def Logs (activity : Run α) (world : World) (count : Nat) : Prop :=
  Yields activity world (fun _ after => world.Logged count after) fun _ after => world.Logged count after

variable {world : World}

theorem Logs.of_keeps {activity : Run α}
    (keeps : ∀ number, Keeps (fun world => world.machine.log.next = number) activity) (world : World) :
    Logs activity world 0 := by
  have same (after : World) (still : after.machine.log.next = world.machine.log.next) :
      world.Logged 0 after := still.trans (Int.add_zero _).symm
  exact (keeps _ world rfl).mono (fun _ => same) fun _ => same

theorem Logs.after {middle : World} {activity : Run α} {first second : Nat}
    (early : world.Logged first middle) (logs : Logs activity middle second) :
    Yields activity middle (fun _ after => world.Logged (first + second) after)
      fun _ after => world.Logged (first + second) after :=
  logs.mono (fun _ _ late => early.trans late) fun _ _ late => early.trans late

theorem Logs.bind {activity : Run α} {next : α → Run β} {count : Nat} (logs : Logs activity world count)
    (rest : ∀ value middle, Logs (next value) middle 0) : Logs (activity >>= next) world count := by
  unfold Logs
  rw [yields_bind]
  apply Yields.mono logs
  · intro value middle early
    exact Logs.after early (rest value middle)
  · intro _ _ early
    exact early

theorem logs_notify (event : Event) (occasion : Occasion) (arguments : List String) (world : World) :
    Logs (notify event occasion arguments) world 0 :=
  Logs.of_keeps (fun number => (number_kept_unlogged number).notify event occasion arguments) world

theorem logs_load_files (loaded : List Instruction) (paths : List String) (world : World) :
    Logs (loadFiles loaded paths) world (world.host.files.passed paths).length := by
  induction paths generalizing loaded world with
  | nil => exact World.logged_none _
  | cons path rest ih =>
      have later (loaded : List Instruction) :=
        Logs.after (world.logged_looked path) (ih loaded (world.looked [path]))
      rw [FileSystem.passed_cons]
      unfold Logs Yields at later ⊢
      cases opened : world.host.files.read path with
      | ok source =>
          cases parsed : parse source path .normal with
          | ok fragment =>
              have passes : world.host.files.passes path = true := by
                simp [FileSystem.passes, FileSystem.fragment?, opened, parsed, Except.toOption]
              rw [load_files_parsed opened parsed, if_pos passes, List.length_cons, Nat.add_comm]
              exact later _
          | error fault =>
              have stops : world.host.files.passes path ≠ true := by
                simp [FileSystem.passes, FileSystem.refusal?, FileSystem.fragment?, opened, parsed,
                  Except.toOption]
              rw [load_files_unparsed opened parsed, if_neg stops]
              exact World.logged_none _
      | error fault =>
          rcases read_error opened with ⟨reason, rfl⟩ | ⟨-, rfl⟩
          · have passes : world.host.files.passes path = true := by
              simp [FileSystem.passes, FileSystem.refusal?, opened]
            rw [load_files_refused opened, if_pos passes, List.length_cons, Nat.add_comm]
            exact later _
          · -- a path that cannot be opened at all raises before anything is logged about it
            have stops : world.host.files.passes path ≠ true := by
              simp [FileSystem.passes, FileSystem.refusal?, FileSystem.fragment?, opened]
            rw [load_files_raised opened, if_neg stops]
            exact World.logged_none _

/-- A handler logs only what it includes. -/
theorem logs_handle (spec : CommandSpec) (arguments : List String) (world : World) :
    Logs (handle spec arguments) world
      (match spec.handler with
        | .includeFiles => (world.host.files.passed arguments).length
        | _ => 0) := by
  unfold handle
  cases spec.handler with
  | includeFiles =>
      have appends (loaded : List Instruction) (middle : World) :
          Logs (modifyMachine (·.append loaded)) middle 0 :=
        Logs.of_keeps (fun number => (number_kept_unlogged number).change fun _ => ⟨⟨rfl, rfl, rfl⟩, rfl⟩)
          middle
      have includes : Logs (includeFiles arguments) world (world.host.files.passed arguments).length :=
        (logs_load_files [] arguments world).bind appends
      exact includes.bind fun _ middle => Logs.of_keeps (fun _ => keeps_pure _) middle
  | clearTape =>
      exact Logs.of_keeps (fun number => (number_kept_unlogged number).clear_tape.bind fun _ => keeps_pure _)
        world
  | script actions =>
      exact Logs.of_keeps (fun number => (number_kept_unlogged number).perform_all _ _ _) world

theorem included_of_resolved {text : String} {spec : CommandSpec}
    (resolved : resolve world.host.services.commands text world.machine.ip = .ok spec) :
    included text world =
      match spec.handler,
        notify .beforeCommand (.beforeCommand (commandName text)) (commandArguments text) world with
      | .includeFiles, .ok arguments called => called.host.files.passed arguments
      | _, _ => [] := by
  unfold included
  rw [resolved]

theorem logs_command (text : String) (world : World) :
    Logs (command text world.machine.ip) world (included text world).length := by
  have told := logs_notify .beforeCommand (.beforeCommand (commandName text)) (commandArguments text) world
  unfold Logs
  rw [command, yields_bind, yields_get, yields_bind, yields_lift]
  constructor
  · intro spec resolved
    rw [yields_bind]
    unfold Logs Yields at told
    unfold Yields
    cases announced : notify .beforeCommand (.beforeCommand (commandName text)) (commandArguments text)
        world with
    | error fault after =>
        have nothing : included text world = [] := by
          rw [included_of_resolved resolved, announced]
          cases spec.handler <;> rfl
        rw [announced] at told
        rw [nothing]
        exact told
    | ok arguments called =>
        have count : (included text world).length =
            match spec.handler with
            | .includeFiles => (called.host.files.passed arguments).length
            | _ => 0 := by
          rw [included_of_resolved resolved, announced]
          cases spec.handler <;> rfl
        rw [announced] at told
        have handled := (logs_handle spec arguments called).bind fun left middle =>
          Logs.of_keeps (fun number =>
            ((number_kept_unlogged number).notify .afterCommand
              (.afterCommand (commandName text)) left).discard)
            middle
        have both := Logs.after told handled
        rw [Nat.zero_add, ← count] at both
        exact both
  · intro fault refused
    have nothing : included text world = [] := by
      unfold included
      rw [refused]
    rw [nothing]
    exact World.logged_none _

/-- A step adds an entry for its instruction, and one for each include argument that it gets past. -/
theorem logs_step (world : World) :
    Logs step world (if world.dispatches then 1 + world.included.length else 0) := by
  unfold World.dispatches World.included
  cases fetched : world.machine.fetch world.machine.ip with
  | error fault =>
      unfold Logs Yields
      rw [step_unfetched fetched]
      exact World.logged_none _
  | ok instruction =>
      unfold Logs
      rw [yields_step fetched]
      have noted := world.logged_log_step instruction
      cases instruction with
      | command text =>
          have commands := logs_command text { world with machine := world.machine.logStep (.command text) }
          exact Logs.after noted (commands.bind fun _ => Logs.of_keeps fun _ => keeps_pure _)
      | _ =>
          -- only commands can log, so every other instruction keeps the number
          refine Logs.after noted (Logs.of_keeps (fun number => (number_kept_unlogged number).exec _ _ ?_) _)
          intro text same
          cases same

theorem logs_steps (fuel : Nat) (world : World) :
    Logs (steps fuel) world (World.entryCount ((visited fuel world).filter World.dispatches)) := by
  induction fuel generalizing world with
  | zero => exact World.logged_none _
  | succ fuel ih =>
      cases halted : world.machine.halted with
      | true =>
          rw [visited_of_halted _ halted]
          unfold Logs Yields
          rw [steps_of_halted _ halted]
          exact World.logged_none _
      | false =>
          have first := logs_step world
          unfold Logs Yields at first ⊢
          rw [steps_succ_of_running fuel halted, bind_eq]
          cases stepped : step world with
          | ok _ middle =>
              rw [stepped] at first
              rw [visited_of_ok fuel halted stepped, World.entry_count_cons]
              exact Logs.after first (ih middle)
          | error fault after =>
              rw [stepped] at first
              rw [visited_of_error fuel halted stepped, World.entry_count_cons]
              exact first

theorem logged_stopped {fuel : Nat} {started executed : World} {failure : Option Fault}
    (stops : steps fuel started = stopped failure executed) :
    started.Logged (World.entryCount ((visited fuel started).filter World.dispatches)) executed := by
  cases failure with
  | none => exact (logs_steps fuel started).of_ok stops
  | some fault => exact (logs_steps fuel started).of_error stops

theorem logged_run {fuel : Nat} {outlet : Outlet} {world : World} {ended : Ended}
    (ran : run fuel outlet world = some ended) :
    world.Logged (World.entryCount (dispatched fuel outlet world)) ended.world := by
  unfold dispatched
  cases halted : world.machine.halted with
  | true =>
      rw [run_of_halted fuel outlet halted] at ran
      cases ran
      exact World.logged_none _
  | false =>
      have told := logs_notify .programStart .programStart [] (world.attach outlet)
      cases course_of_run halted ran with
      | refused starts =>
          rw [if_neg Bool.false_ne_true, starts]
          exact told.of_error starts
      | @concluded arguments started executed failure starts stops =>
          -- the steps alone count: neither the listeners nor the last flush move the number
          have judged := (number_kept_unlogged executed.machine.log.next).judged failure rfl
          have begun := (told.of_ok starts).trans (logged_stopped stops)
          rw [if_neg Bool.false_ne_true, starts]
          rw [Nat.zero_add] at begun
          have last := conclusion_keeps (fun world => world.machine.log.next = executed.machine.log.next)
            (fun _ _ same => same) (fun _ same => same) outlet (Run.judged failure executed).1 judged
          exact last.trans begun

end Run

/-- Reports that are not linked yet are recorded as a chain from the seed, through states of which no two have
the same name, and a log that was empty keeps the end of it. A run adds an entry for each instruction that it
dispatches, and one for each include argument that is skipped or parsed. -/
theorem log_is_end_of_chain :
    (∀ {Cell : Type} (limit : Nat) (reports : List (StepLog.Report Cell)),
      (∀ report ∈ reports, Json.lookup "from_state_id" report.record = none) →
      StepLog.Chain reports (StepLog.entriesFor { limit } reports) ∧
        StepLog.KeepsEnd limit (StepLog.entriesFor { limit } reports)
          (StepLog.recordAll { limit } reports)) ∧
    ∀ (fuel : Nat) (outlet : Outlet) (world : World) (ended : Ended),
      Run.run fuel outlet world = some ended →
      ended.world.machine.log.next = world.machine.log.next +
        (((Run.dispatched fuel outlet world).length +
          ((Run.dispatched fuel outlet world).flatMap World.included).length : Nat) : Int) := by
  refine ⟨?_, ?_⟩
  · intro Cell limit reports unlinked
    exact ⟨StepLog.chain_of_reports limit unlinked, StepLog.keeps_end_record_all limit reports⟩
  · intro fuel outlet world ended ran
    exact Run.logged_run ran

def failingInclude : Setup where
  program := [.counted .increment 1, .command "include m a b"]
  files := ⟨"/", fun path =>
    if path = "m" then .error (.missing path) else .ok (.bytes (if path = "a" then [43] else [93]))⟩

/-- A log for two entries that gets a third one, and a run that includes a missing file, one that is parsed
and one that is not. -/
theorem missing_and_parsed_files_logged :
    ∃ (reports : List (StepLog.Report UInt8)) (world : World) (ended : Ended),
      (∀ report ∈ reports, Json.lookup "from_state_id" report.record = none) ∧
      StepLog.Chain reports (StepLog.entriesFor { limit := 2 } reports) ∧
      StepLog.KeepsEnd 2 (StepLog.entriesFor { limit := 2 } reports)
        (StepLog.recordAll { limit := 2 } reports) ∧
      (StepLog.recordAll { limit := 2 } reports).entries.map (·.stateId) = ["s_000001", "s_000002"] ∧
      Run.run 9 (.direct {}) world = some ended ∧
      (Run.dispatched 9 (.direct {}) world).length = 2 ∧
      (Run.dispatched 9 (.direct {}) world).flatMap World.included = ["m", "a"] ∧
      ended.world.machine.log.next = world.machine.log.next + 4 := by
  let reports : List (StepLog.Report UInt8) :=
    [{ record := [("rule", .str "STEP")] }, {}, { record := [("rule", .str "STEP")] }]
  have unlinked : ∀ report ∈ reports, Json.lookup "from_state_id" report.record = none := by
    intro report given
    simp only [reports, List.mem_cons, List.not_mem_nil, or_false] at given
    rcases given with rfl | rfl | rfl <;> rfl
  have names : (StepLog.recordAll { limit := 2 } reports).entries.map (·.stateId) =
      ["s_000001", "s_000002"] := by
    decide +kernel
  have dispatched : (Run.dispatched 9 (.direct {}) failingInclude.world).length = 2 := by decide +kernel
  have included : (Run.dispatched 9 (.direct {}) failingInclude.world).flatMap World.included =
      ["m", "a"] := by
    decide +kernel
  have ends : (Run.run 9 (.direct {}) failingInclude.world).isSome = true := by decide +kernel
  obtain ⟨ended, ran⟩ := Option.isSome_iff_exists.mp ends
  obtain ⟨chain, kept⟩ := log_is_end_of_chain.1 2 reports unlinked
  have counted := log_is_end_of_chain.2 9 (.direct {}) failingInclude.world ended ran
  rw [dispatched, included] at counted
  exact ⟨reports, _, ended, unlinked, chain, kept, names, ran, dispatched, included, counted⟩

end TapeLang
