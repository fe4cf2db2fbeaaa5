import TapeLang.Machine.Command

/-!
One step of a machine: fetch, log, execute, and move to the next instruction.
-/

namespace TapeLang.Run

def updateCell (change : UInt8 → UInt8) : Run Unit := do
  let machine ← machine
  let cell ← lift .index (machine.tape.read machine.pointer)
  let tape ← lift .index (machine.tape.write machine.pointer (change cell))
  modifyMachine fun machine => { machine with tape }

/-- Moves the pointer left; the left end stops it. -/
def shiftLeft (count : Nat) : Run Unit :=
  modifyMachine fun machine =>
    { machine with pointer := if machine.pointer < count then 0 else machine.pointer - count }

/-- Moves the pointer right; the tape grows to hold it. -/
def shiftRight (count : Nat) : Run Unit :=
  modifyMachine fun machine =>
    let target := machine.pointer + count
    { machine with tape := machine.tape.grow (target + 1).toNat, pointer := target }

def execCounted (count : Nat) : Counted → Run Unit
  | .increment => updateCell (· + UInt8.ofNat count)
  | .decrement => updateCell (· - UInt8.ofNat count)
  | .shiftLeft => shiftLeft count
  | .shiftRight => shiftRight count

def readCell : Run UInt8 := do
  let machine ← machine
  lift .index (machine.tape.read machine.pointer)

def writeCell (byte : UInt8) : Run Unit := do
  let machine ← machine
  let tape ← lift .index (machine.tape.write machine.pointer byte)
  modifyMachine fun machine => { machine with tape }

/-- Executes the instruction at an index and returns the index of the next one. -/
def exec (instruction : Instruction) (ip : Int) : Run Int :=
  match instruction with
  | .counted kind count => do
    execCounted count kind
    return ip + 1
  | .output => do
    emit [← readCell]
    return ip + 1
  | .input => do
    writeCell (← readByte)
    return ip + 1
  | .loopStart none =>
    throw (.runtime { cause := .unresolvedLoop ip, ip := some ip, rule := some "internal" })
  | .loopStart (some target) => do
    return if (← readCell) = 0 then target else ip + 1
  | .loopEnd start => do
    return if (← readCell) = 0 then ip + 1 else start
  | .command text => do
    command text ip
    return ip + 1
  | .foreign text =>
    throw (.runtime {
      cause := .unknownInstruction text ip
      ip := some ip
      rule := some "internal"
    })

/-- The index of the next instruction is set last, whatever a command did to it. -/
def step : Run Unit := do
  let before ← machine
  let instruction ← lift .index (before.fetch before.ip)
  modifyMachine (·.logStep instruction)
  let next ← exec instruction before.ip
  modifyMachine fun machine => { machine with ip := next }

/-- Steps until the machine halts, at most `fuel` times; says whether it halted. -/
def steps : Nat → Run Bool
  | 0 => return (← machine).halted
  | fuel + 1 => do
    if (← machine).halted then return true
    step
    steps fuel

end TapeLang.Run
