import TapeLang.StepLog
import TapeLang.Stream.Outlet
import TapeLang.Tape

/-!
The tape machine. It keeps its program, tape, pointer and instruction index between runs, and its program
only grows.
-/

namespace TapeLang

structure Machine where
  file : String
  verbose : Bool
  program : Array Instruction
  tape : Tape
  pointer : Int := 0
  ip : Int := 0
  history : Array UInt8 := #[]
  attached : Option Outlet := none
  skipped : Array String := #[]
  log : StepLog UInt8

namespace Machine

/-- Only the latest entries of the step log are kept. -/
def logLimit : Nat := 4096

def defaultTapeSize : Int := 5

def seedLog : StepLog UInt8 :=
  StepLog.record { limit := logLimit }
    { instruction := some "<seed>", record := [("rule", .str "SEED")] }

def create (program : List Instruction) (file : String) (verbose : Bool) (tapeSize : Int) :
    Except ValueFault Machine :=
  if tapeSize < 1 then .error (.tapeTooSmall tapeSize)
  else .ok {
    file
    verbose
    program := program.toArray
    tape := Tape.blank tapeSize.toNat
    log := seedLog
  }

def halted (machine : Machine) : Bool :=
  machine.program.size ≤ machine.ip

def cells (machine : Machine) : List UInt8 := machine.tape.cells

/-- The instruction at an index; a negative index counts from the end of the program. -/
def fetch (machine : Machine) (index : Int) : Except IndexFault Instruction :=
  let counted := if index < 0 then index + machine.program.size else index
  if index < -IndexFault.wordBound then .error .notAnOffset
  else if counted < 0 then .error .noSuchItem
  else
    match machine.program[counted.toNat]? with
    | some instruction => .ok instruction
    | none => .error .noSuchItem

/-- Appends a fragment whose jumps are relative to its own start. -/
def append (machine : Machine) (fragment : List Instruction) : Machine :=
  { machine with
    program := machine.program ++ (relocate machine.program.size fragment).toArray }

def resetTape (machine : Machine) : Machine :=
  { machine with tape := machine.tape.clear }

def logReport (machine : Machine) (report : StepLog.Report UInt8) : Machine :=
  { machine with log := machine.log.record report }

/-- Logs that an instruction is about to be executed, with the cells when the machine is verbose. -/
def logStep (machine : Machine) (instruction : Instruction) : Machine :=
  machine.logReport {
    ip := some machine.ip
    instruction := some instruction.text
    pointer := machine.pointer
    tape := if machine.verbose then some machine.cells else none
    record := [("rule", .str instruction.kindName)]
  }

def logEvent (machine : Machine) (rule : String) (details : List (String × Json)) : Machine :=
  machine.logReport {
    ip := some machine.ip
    pointer := machine.pointer
    record := ("rule", .str rule) :: details
  }

end Machine

end TapeLang
