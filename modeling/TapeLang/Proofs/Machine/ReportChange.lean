import TapeLang.Proofs.Machine.Failure

/-!
What no instruction looks at. The name of a machine's file, its verbosity and its log have no influence on
what it does: a machine that is given others in their place does the same, and keeps them.
-/

namespace TapeLang

structure Machine.ReportChange where
  file : String → String
  verbose : Bool → Bool
  log : StepLog UInt8 → StepLog UInt8

namespace Machine.ReportChange

def machine (altered : ReportChange) (machine : Machine) : Machine :=
  { machine with
    file := altered.file machine.file
    verbose := altered.verbose machine.verbose
    log := altered.log machine.log }

def world (altered : ReportChange) (world : World) : World :=
  { world with machine := altered.machine world.machine }

def ended (altered : ReportChange) (ended : Ended) : Ended :=
  { ended with world := altered.world ended.world }

/-- A machine that is altered logs what it would log otherwise, and reports the same faults. -/
structure Unnoticed (altered : ReportChange) : Prop where
  step : ∀ (machine : Machine) (instruction : Instruction),
    (altered.machine machine).logStep instruction = altered.machine (machine.logStep instruction)
  event : ∀ (machine : Machine) (rule : String) (details : List (String × Json)),
    (altered.machine machine).logEvent rule details = altered.machine (machine.logEvent rule details)
  reported : ∀ (machine : Machine) (fault : Fault),
    Run.reported (altered.machine machine) fault = Run.reported machine fault

structure Covers (altered : ReportChange) (left right : World) : Prop where
  builtin : left.host.services.Builtin
  same : right = altered.world left

variable {altered : ReportChange} {left right : World}

theorem Covers.emit (covers : altered.Covers left right) (bytes : Bytes) :
    Run.Matched (fun _ _ => True) (Run.Shared fun _ => True) altered.Covers (Run.emit bytes left)
      (Run.emit bytes right) := by
  rcases covers with ⟨builtin, rfl⟩
  have attached : (altered.world left).machine.attached = left.machine.attached := rfl
  rw [Run.emit_eq, Run.emit_eq, attached]
  cases left.machine.attached with
  | none => exact .ok trivial ⟨builtin, rfl⟩
  | some outlet =>
      dsimp only
      rw [Run.settle_eq, Run.settle_eq]
      cases (outlet.write bytes).fault with
      | none => exact .ok trivial ⟨builtin, rfl⟩
      | some fault => exact .error ⟨rfl, trivial⟩ ⟨builtin, rfl⟩

theorem Covers.flush (covers : altered.Covers left right) :
    Run.Matched (fun _ _ => True) (Run.Shared fun _ => True) altered.Covers (Run.flush left)
      (Run.flush right) := by
  rcases covers with ⟨builtin, rfl⟩
  have attached : (altered.world left).machine.attached = left.machine.attached := rfl
  rw [Run.flush_eq, Run.flush_eq, attached]
  cases left.machine.attached with
  | none => exact .ok trivial ⟨builtin, rfl⟩
  | some outlet =>
      dsimp only
      rw [Run.settle_eq, Run.settle_eq]
      cases outlet.flush.fault with
      | none => exact .ok trivial ⟨builtin, rfl⟩
      | some fault => exact .error ⟨rfl, trivial⟩ ⟨builtin, rfl⟩

theorem Covers.readByte (covers : altered.Covers left right) :
    Run.Matched (· = ·) (Run.Shared fun _ => True) altered.Covers (Run.readByte left)
      (Run.readByte right) := by
  rw [Run.read_byte_eq, Run.read_byte_eq]
  have flushes := covers.flush
  generalize Run.flush left = leftResult at flushes
  generalize Run.flush right = rightResult at flushes
  cases flushes with
  | error fault still => exact .error fault still
  | @ok _ _ flushed other _ still =>
      rcases still with ⟨builtin, rfl⟩
      have source : (altered.world flushed).source = flushed.source := rfl
      dsimp only
      rw [source]
      cases Run.byteOf flushed.source.take.1 with
      | ok byte => exact .ok rfl ⟨builtin, rfl⟩
      | error fault => exact .error ⟨rfl, trivial⟩ ⟨builtin, rfl⟩

namespace Unnoticed

variable (unnoticed : altered.Unnoticed)

include unnoticed

theorem stepping : Run.Stepping altered.Covers fun _ => True where
  builtin := by
    rintro left right ⟨builtin, rfl⟩
    exact ⟨builtin, builtin⟩
  files := by
    rintro left right ⟨-, rfl⟩
    rfl
  tape := by
    rintro left right ⟨-, rfl⟩
    rfl
  pointer := by
    rintro left right ⟨-, rfl⟩
    rfl
  place := by
    rintro left right ⟨builtin, rfl⟩ tape pointer
    exact ⟨builtin, rfl⟩
  event := by
    rintro left right ⟨builtin, rfl⟩ rule details
    exact ⟨builtin, congrArg (fun machine => { left with machine })
      (unnoticed.event left.machine rule details)⟩
  skip := by
    rintro left right ⟨builtin, rfl⟩ path fault
    refine .ok trivial ⟨builtin, ?_⟩
    exact congrArg (fun machine : Machine => (⟨machine, left.source, _⟩ : World))
      (unnoticed.event { left.machine with skipped := left.machine.skipped.push path } _ _)
  append := by
    rintro left right ⟨builtin, rfl⟩ fragment
    exact ⟨builtin, rfl⟩
  emit := fun covers bytes => covers.emit bytes
  ordinary _ _ := trivial
  program := by
    rintro left right ⟨-, rfl⟩
    rfl
  ip := by
    rintro left right ⟨-, rfl⟩
    rfl
  logStep := by
    rintro left right ⟨builtin, rfl⟩ instruction
    exact ⟨builtin, congrArg (fun machine => { left with machine })
      (unnoticed.step left.machine instruction)⟩
  goTo := by
    rintro left right ⟨builtin, rfl⟩ ip
    exact ⟨builtin, rfl⟩

theorem ending (outlet : Outlet) (failure : Option Fault) {world : World}
    (builtin : world.host.services.Builtin) :
    Run.ending outlet failure (altered.world world) = altered.ended (Run.ending outlet failure world) := by
  have verdict : failure.map (Run.reported (altered.world world).machine) =
      failure.map (Run.reported world.machine) := by
    cases failure with
    | none => rfl
    | some fault => exact congrArg some (unnoticed.reported world.machine fault)
  have covers : altered.Covers world (altered.world world) := ⟨builtin, rfl⟩
  have flushes := covers.flush
  unfold Run.ending
  rw [verdict]
  generalize Run.flush world = result at flushes
  generalize Run.flush (altered.world world) = alteredResult at flushes
  cases flushes with
  | ok _ still =>
      rcases still with ⟨-, rfl⟩
      rfl
  | error shared still =>
      rcases shared with ⟨rfl, -⟩
      rcases still with ⟨-, rfl⟩
      rfl

/-- A run of an altered machine is its run without the change, altered at its end. -/
theorem run (fuel : Nat) (outlet : Outlet) {world : World} (builtin : world.host.services.Builtin) :
    Run.run fuel outlet (altered.world world) = (Run.run fuel outlet world).map altered.ended := by
  have alteredBuiltin : (altered.world world).host.services.Builtin := builtin
  cases halted : world.machine.halted with
  | true =>
      have alteredHalted : (altered.world world).machine.halted = true := halted
      rw [Run.run_of_halted fuel outlet halted, Run.run_of_halted fuel outlet alteredHalted]
      rfl
  | false =>
      have alteredRuns : (altered.world world).machine.halted = false := halted
      have begins : altered.Covers (world.attach outlet) ((altered.world world).attach outlet) :=
        ⟨builtin, rfl⟩
      have stepped := unnoticed.stepping.steps Covers.readByte begins fuel
      rw [Run.run_of_running fuel outlet builtin halted,
        Run.run_of_running fuel outlet alteredBuiltin alteredRuns]
      generalize Run.steps fuel (world.attach outlet) = result at stepped
      generalize Run.steps fuel ((altered.world world).attach outlet) = alteredResult at stepped
      cases stepped with
      | @ok finished _ _ _ same still =>
          rcases still with ⟨still, rfl⟩
          cases same
          cases finished with
          | false => rfl
          | true => exact congrArg some (unnoticed.ending outlet none still)
      | error shared still =>
          rcases shared with ⟨rfl, -⟩
          rcases still with ⟨still, rfl⟩
          exact congrArg some (unnoticed.ending outlet _ still)

end Unnoticed

def named (name : String) : ReportChange where
  file _ := name
  verbose verbose := verbose
  log log := log

theorem named_unnoticed (name : String) : (named name).Unnoticed :=
  ⟨fun _ _ => rfl, fun _ _ _ => rfl, fun _ _ => rfl⟩

end Machine.ReportChange

end TapeLang
