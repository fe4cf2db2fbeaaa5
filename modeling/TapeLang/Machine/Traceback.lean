import TapeLang.Machine.State

/-!
Tracebacks: what is shown of a runtime fault and of the machine it arose on, as text and as a
structured document.
-/

namespace TapeLang.Traceback

def failing? (machine : Machine) (fault : RuntimeFault) : Option String :=
  match fault.ip with
  | some (.ofNat index) => machine.program[index]?.map (·.text)
  | _ => none

def place (machine : Machine) (fault : RuntimeFault) : List String :=
  match fault.ip with
  | none => ["  File \"" ++ machine.file ++ "\", <unknown instruction>"]
  | some ip =>
    ("  File \"" ++ machine.file ++ "\", instruction " ++ Text.decimal ip)
      :: ((failing? machine fault).toList.filter (!·.isEmpty)).map ("    " ++ ·)

def logLine (machine : Machine) : List String :=
  machine.log.last?.toList.map fun entry =>
    "    State log index: " ++ Text.decimal entry.step ++ "  State id: " ++ entry.stateId

def cellsText (machine : Machine) : String :=
  Text.bracketed (machine.cells.map fun cell => Text.decimal cell.toNat)

/-- An absent and an empty rule are both shown as the general one. -/
def ruleText (fault : RuntimeFault) : String :=
  let rule := fault.rule.getD ""
  if rule.isEmpty then "runtime" else rule

def text (machine : Machine) (fault : RuntimeFault) (verbose : Bool) : String :=
  "\n".intercalate (
    ["Traceback (most recent call last):"]
      ++ place machine fault
      ++ logLine machine
      ++ ["    Data pointer: " ++ Text.decimal machine.pointer ++ "  Tape size: "
          ++ Text.decimal machine.tape.size]
      ++ (if verbose then ["    Tape: " ++ cellsText machine] else [])
      ++ [fault.cause.heading ++ ": " ++ fault.message ++ " (rule: " ++ ruleText fault ++ ")"])

def optional (write : α → Json) : Option α → Json
  | some value => write value
  | none => .null

def cellsJson (cells : List UInt8) : Json :=
  .arr (cells.map fun cell => .int cell.toNat)

def entryJson (entry : LogEntry UInt8) : Json :=
  .obj (
    [("step_index", .int entry.step),
      ("state_id", .str entry.stateId),
      ("instruction_pointer", optional .int entry.ip),
      ("instruction", optional .str entry.instruction),
      ("pointer", .int entry.pointer)]
    ++ (entry.tape.toList.map fun cells => ("tape_snapshot", cellsJson cells))
    ++ [("rewrite_record", .obj entry.record)])

def recentCount : Nat := 10

def document (machine : Machine) (fault : RuntimeFault) : Json :=
  .obj [
    ("error", .obj [
      ("type", .str fault.cause.heading),
      ("message", .str fault.message),
      ("rule", optional .str fault.rule),
      ("instruction_pointer", optional .int fault.ip),
      ("instruction", optional .str (failing? machine fault)),
      ("failing_step_index", optional .int fault.step)]),
    ("state", .obj [
      ("file", .str machine.file),
      ("pointer", .int machine.pointer),
      ("tape", cellsJson machine.cells)]),
    ("recent_steps", .arr ((machine.log.recent recentCount).map entryJson))]

def json (machine : Machine) (fault : RuntimeFault) : String :=
  (document machine fault).render 0

end TapeLang.Traceback
