import TapeLang.Machine.State

/-!
How a machine writes and reads. Bytes enter the output history before they are written, and what was
written is flushed before a byte is asked for.
-/

namespace TapeLang.Run

/-- Takes over the outcome of a call on the attached outlet. -/
def settle (called : Called Outlet) : Run Unit := do
  modifyMachine fun machine => { machine with attached := some called.stream }
  record called.events
  match called.fault with
  | none => pure ()
  | some fault => throw fault

def emit (bytes : Bytes) : Run Unit := do
  modifyMachine fun machine => { machine with history := machine.history ++ bytes.toArray }
  match (← machine).attached with
  | none => pure ()
  | some outlet => settle (outlet.write bytes)

def flush : Run Unit := do
  match (← machine).attached with
  | none => pure ()
  | some outlet => settle outlet.flush

def byteOf : Delivery → Except Fault UInt8
  | .byte byte => .ok byte
  | .char c => if c.toNat ≤ 0xFF then .ok (UInt8.ofNat c.toNat) else .error (.unencodable c)
  | .nothing => .error (.runtime { cause := .inputEnded, rule := some "input" })
  | .failure (.file fault) =>
    .error (.runtime { cause := .inputFailed fault.message, rule := some "input" })
  | .failure fault => .error fault

def readByte : Run UInt8 := do
  flush
  let source := (← get).source
  record (source.prompt?.toList.map .shown)
  let (delivery, rest) := source.take
  modify fun world => { world with source := rest }
  let byte := byteOf delivery
  record [.read byte.toOption]
  lift id byte

end TapeLang.Run
