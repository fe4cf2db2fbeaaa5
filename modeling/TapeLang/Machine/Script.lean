import TapeLang.Machine.Streams

/-!
Running scripts and delivering events. The arguments of a command are handed from script to script, so
that each sees what the ones before it have added. A listener that is registered during a delivery of
its event takes part in that delivery.
-/

namespace TapeLang

namespace Occasion

def event? : Occasion → Option Event
  | .command => none
  | .programStart => some .programStart
  | .programEnd _ => some .programEnd
  | .onError _ => some .onError
  | .beforeCommand _ => some .beforeCommand
  | .afterCommand _ => some .afterCommand

def kind (occasion : Occasion) : String :=
  match occasion.event? with
  | none => "command"
  | some event => event.name

def details (occasion : Occasion) (arguments : List String) : List CallDetail :=
  match occasion with
  | .command => [.arguments arguments]
  | .programStart => []
  | .programEnd code => [.code code]
  | .onError fault => [.fault fault]
  | .beforeCommand name => [.name name, .arguments arguments]
  | .afterCommand name => [.name name, .arguments arguments]

end Occasion

/-- Who runs a script and what for. -/
structure Call where
  owner : String
  occasion : Occasion

namespace Run

def currentCell (machine : Machine) : Except IndexFault UInt8 :=
  let cells := machine.cells
  let counted := if machine.pointer < 0 then machine.pointer + cells.length else machine.pointer
  if machine.pointer < -IndexFault.wordBound ∨ IndexFault.wordBound ≤ machine.pointer then
    .error .notAnOffset
  else if counted < 0 then .error .noSuchItem
  else
    match cells[counted.toNat]? with
    | some cell => .ok cell
    | none => .error .noSuchItem

def appendIncrement (count : Int) : Run Unit := do
  let instruction ← lift .value (Instruction.counted? .increment count)
  modifyMachine (·.append [instruction])

def double : Run Unit := do
  let cell ← lift .index (currentCell (← machine))
  if cell ≠ 0 then appendIncrement cell.toNat

def register (owner : String) (registration : Registration) : Run Unit := do
  let services ← lift id ((← get).host.services.register owner registration)
  modifyHost fun host => { host with services }

end Run

/-- A script at work. It changes the arguments of its call in place, and what it did stays done when it
fails. -/
abbrev Scripting := EStateM Fault (List String × World)

namespace Scripting

def inWorld (activity : Run α) : Scripting α := fun (arguments, world) =>
  match activity world with
  | .ok value after => .ok value (arguments, after)
  | .error fault after => .error fault (arguments, after)

def sight (call : Call) : Scripting Sight := do
  let (arguments, world) ← get
  return { machine := world.machine, occasion := call.occasion, arguments }

/-- Goes on after a fault that is caught, from where it left things. -/
def recover (catches : Fault → Bool) (body rescue : Scripting Unit) : Scripting Unit := fun start =>
  match body start with
  | .ok _ after => .ok () after
  | .error fault after => if catches fault then rescue after else .error fault after

def leaveNote (call : Call) (tag : Json) : Scripting Unit := do
  let seen ← sight call
  let note : Note := {
    tag
    kind := call.occasion.kind
    ip := seen.machine.ip
    pointer := seen.machine.pointer
    details := call.occasion.details seen.arguments
  }
  inWorld (Run.modifyHost fun host => { host with notes := host.notes.push note })

def addArgument (call : Call) : Scripting Unit := do
  match (← sight call).arguments with
  | [] => throw (.index .noSuchItem)
  | first :: _ =>
    inWorld do
      let count ← Run.lift (fun fault => .value (.numeral fault)) (Text.readInteger first)
      Run.appendIncrement count

mutual

def perform (call : Call) : Action → Scripting Unit
  | .note tag => leaveNote call tag
  | .emit bytes => inWorld (Run.emit bytes)
  | .emitSeen bytes => do
    let seen ← sight call
    inWorld (Run.lift id (bytes seen) >>= Run.emit)
  | .append source file mode =>
    inWorld do
      let fragment ← Run.lift .badSyntax (parse source file mode)
      Run.modifyMachine (·.append fragment)
  | .resetTape => inWorld (Run.modifyMachine (·.resetTape))
  | .setPointer value => inWorld (Run.modifyMachine fun machine => { machine with pointer := value })
  | .setIp value => inWorld (Run.modifyMachine fun machine => { machine with ip := value })
  | .clearLog => inWorld (Run.modifyMachine fun machine => { machine with log := machine.log.clear })
  | .double => inWorld Run.double
  | .addArgument => addArgument call
  | .pushArgument text => modify fun (arguments, world) => (arguments ++ [text], world)
  | .fail fault => throw fault
  | .register registration => inWorld (Run.register call.owner registration)
  | .branch test yes no => do
    if test (← sight call) then performAll call yes else performAll call no
  | .attempt catches body rescue => recover catches (performAll call body) (performAll call rescue)

def performAll (call : Call) : List Action → Scripting Unit
  | [] => pure ()
  | action :: rest => do
    perform call action
    performAll call rest

end

end Scripting

namespace Run

def performAll (call : Call) (arguments : List String) (script : List Action) : Run (List String) :=
  fun world =>
    match Scripting.performAll call script (arguments, world) with
    | .ok _ (left, after) => .ok left after
    | .error fault (_, after) => .error fault after

/-- An upper bound on the number of listeners that one delivery can reach. -/
def deliveryBound (listeners : List Listener) : Nat :=
  listeners.foldr (fun listener bound => scriptListenerCount listener.script + 1 + bound) 0

/-- Calls the listeners of an event from the given number on. -/
def deliverFrom (event : Event) (occasion : Occasion) :
    Nat → Nat → List String → Run (List String)
  | 0, _, arguments => return arguments
  | bound + 1, number, arguments => do
    match ((← get).host.services.listenersOf event)[number]? with
    | none => return arguments
    | some listener =>
      let arguments ← performAll ⟨listener.owner, occasion⟩ arguments listener.script
      deliverFrom event occasion bound (number + 1) arguments

def deliver (event : Event) (occasion : Occasion) (arguments : List String) :
    Run (List String) := do
  let bound := deliveryBound ((← get).host.services.listenersOf event)
  deliverFrom event occasion bound 0 arguments

/-- What leaves a delivery that failed: a fault of the program as it is, any other as the failure of
a hook. -/
def hookFault (event : Event) (machine : Machine) (fault : Fault) : Fault :=
  if fault.ofProgram then fault
  else
    .runtime {
      cause := .hookFailed event.name fault.message
      ip := some machine.ip
      rule := some "EXT"
    }

def notify (event : Event) (occasion : Occasion) (arguments : List String) : Run (List String) :=
  fun world =>
    match deliver event occasion arguments world with
    | .ok arguments world => .ok arguments world
    | .error fault world => .error (hookFault event world.machine fault) world

end Run

end TapeLang
