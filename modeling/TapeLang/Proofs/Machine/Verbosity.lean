import TapeLang.Proofs.Machine.ReportChange

/-!
Snapshots of the cells in the log have no effect. A machine that is not verbose does all that a verbose
one does, and its log is the same without the snapshots.
-/

namespace TapeLang

def LogEntry.quiet (entry : LogEntry Cell) : LogEntry Cell := { entry with tape := none }

def StepLog.quiet (log : StepLog Cell) : StepLog Cell :=
  { log with stored := log.stored.map LogEntry.quiet }

def Machine.quiet (machine : Machine) : Machine :=
  { machine with verbose := false, log := machine.log.quiet }

def World.quiet (world : World) : World := { world with machine := world.machine.quiet }

def Ended.quiet (ended : Ended) : Ended := { ended with world := ended.world.quiet }

theorem StepLog.record_quiet (log : StepLog Cell) (report : Report Cell) :
    log.quiet.record { report with tape := none } = (log.record report).quiet := by
  unfold record push quiet
  cases log.slack with
  | zero => simp [List.map_take]; rfl
  | succ slack => rfl

theorem StepLog.entries_quiet (log : StepLog Cell) :
    log.quiet.entries = log.entries.map LogEntry.quiet := by
  simp [entries, quiet, List.map_take]

namespace Machine

theorem log_report_quiet (machine : Machine) (report : StepLog.Report UInt8) :
    machine.quiet.logReport { report with tape := none } = (machine.logReport report).quiet :=
  congrArg (fun log => { machine with verbose := false, log }) (machine.log.record_quiet report)

theorem log_step_quiet (machine : Machine) (instruction : Instruction) :
    machine.quiet.logStep instruction = (machine.logStep instruction).quiet := by
  unfold logStep
  rw [← log_report_quiet]
  rfl

theorem log_event_quiet (machine : Machine) (rule : String) (details : List (String × Json)) :
    machine.quiet.logEvent rule details = (machine.logEvent rule details).quiet := by
  unfold logEvent
  rw [← log_report_quiet]
  rfl

end Machine

def Machine.ReportChange.quiet : Machine.ReportChange where
  file file := file
  verbose _ := false
  log := StepLog.quiet

namespace Run

theorem reported_quiet (machine : Machine) (fault : Fault) :
    reported machine.quiet fault = reported machine fault := by
  have last : machine.quiet.log.last? = machine.log.last?.map LogEntry.quiet := by
    simp [Machine.quiet, StepLog.last?, StepLog.quiet, ← List.map_take]
  have located (runtime : RuntimeFault) : locate machine.quiet runtime = locate machine runtime := by
    unfold locate
    rw [last]
    cases machine.log.last? <;> rfl
  unfold reported
  split
  · rw [located]
  · rw [located]
    rfl

end Run

theorem Machine.ReportChange.quiet_unnoticed : Machine.ReportChange.quiet.Unnoticed where
  step := Machine.log_step_quiet
  event := Machine.log_event_quiet
  reported := Run.reported_quiet

/-- A machine that is not verbose comes to the same result and output, and to the same log without the
snapshots. -/
theorem Run.run_quiet (fuel : Nat) (outlet : Outlet) {world : World}
    (builtin : world.host.services.Builtin) :
    run fuel outlet world.quiet = (run fuel outlet world).map Ended.quiet :=
  Machine.ReportChange.quiet_unnoticed.run fuel outlet builtin

end TapeLang
