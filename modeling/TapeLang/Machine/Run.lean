import TapeLang.Machine.Step

/-!
A whole run. The outlet is attached first; then come the start listeners, the steps, and either the end
listeners or the error listeners; at last the outlet is flushed and detached. A failure of the start
listeners ends the run before any of this, and a failure of the last flush takes the place of any
other and leaves the outlet attached.
-/

namespace TapeLang

/-- How a run ended: the world it left, the outlet as it left it, what the program came to, and what
leaves the run. -/
structure Ended where
  world : World
  outlet : Outlet
  verdict : Option Fault
  fault : Option Fault

namespace Run

/-- Completes a runtime fault with the place where the machine stands. -/
def locate (machine : Machine) (fault : RuntimeFault) : RuntimeFault :=
  { fault with
    ip := some (fault.ip.getD machine.ip)
    step :=
      match machine.log.last? with
      | some entry => some entry.step
      | none => fault.step }

/-- The fault that a run reports for one that arose in it. -/
def reported (machine : Machine) : Fault → Fault
  | .runtime fault => .runtime (locate machine fault)
  | fault =>
    if fault.ofProgram then fault
    else
      .runtime (locate machine {
        cause := .unexpected fault.message
        ip := some machine.ip
        rule := some "internal"
      })

def judge (failure : Option Fault) : Run (Option Fault) := do
  match failure with
  | none =>
    discard <| notify .programEnd (.programEnd 0) []
    return none
  | some fault =>
    discard <| notify .onError (.onError fault) []
    return some (reported (← machine) fault)

/-- Flushes the outlet and detaches it. -/
def conclude : Run (Option Outlet) := do
  flush
  let outlet := (← machine).attached
  modifyMachine fun machine => { machine with attached := none }
  return outlet

def finish (outlet : Outlet) (failure : Option Fault) (world : World) : Ended :=
  let (verdict, world) :=
    match judge failure world with
    | .ok verdict world => (verdict, world)
    | .error fault world => (some fault, world)
  match conclude world with
  | .ok left world => { world, outlet := left.getD outlet, verdict, fault := verdict }
  | .error fault world =>
    { world, outlet := world.machine.attached.getD outlet, verdict, fault := some fault }

/-- Runs the machine of a world; there is no result when the fuel does not last. -/
def run (fuel : Nat) (outlet : Outlet) (world : World) : Option Ended :=
  if world.machine.halted then some { world, outlet, verdict := none, fault := none }
  else
    let attached := { world with machine := { world.machine with attached := some outlet } }
    match notify .programStart .programStart [] attached with
    | .error fault world =>
      some {
        world
        outlet := world.machine.attached.getD outlet
        verdict := some fault
        fault := some fault
      }
    | .ok _ world =>
      match steps fuel world with
      | .ok true world => some (finish outlet none world)
      | .ok false _ => none
      | .error fault world => some (finish outlet (some fault) world)

end Run

end TapeLang
