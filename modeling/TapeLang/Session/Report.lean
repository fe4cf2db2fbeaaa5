import TapeLang.Machine.Run

/-!
The latest failure. It keeps the tee of the line that failed open, until another failure takes its
place; a tee that is still attached to the machine stays open until the machine has let go of it too.
A tee is flushed once more when it is closed.
-/

namespace TapeLang

inductive Held where
  | nothing
  | detached (tee : Outlet)
  | attached

structure FailureReport where
  fault : Fault
  held : Held := .nothing

namespace FailureReport

/-- The verdict is a wrapped fault. The tee of such a run is never closed. -/
def isWrapped : Option Fault → Bool
  | some (.runtime { cause := .unexpected _, .. }) => true
  | _ => false

/-- Writes go to the sink as before, but closing has no effect. -/
def keepOpen : Outlet → Outlet
  | .tee _ (some sink) => .direct sink
  | outlet => outlet

/-- The world after a run whose tee is never closed. -/
def keepAttached (world : World) : World :=
  { world with
    machine := { world.machine with attached := world.machine.attached.map keepOpen } }

def ofEnded (ended : Ended) (fault : Fault) : FailureReport :=
  if isWrapped ended.verdict then { fault }
  else if ended.world.machine.attached.isSome then { fault, held := .attached }
  else { fault, held := .detached ended.outlet }

/-- The report of a write outside any run, which holds on to a tee that is still attached. -/
def ofWrite (machine : Machine) (fault : Fault) : FailureReport :=
  match machine.attached with
  | some (.tee _ _) => { fault, held := .attached }
  | _ => { fault }

def discard : Option FailureReport → List StreamEvent
  | some { held := .detached tee, .. } => tee.close
  | _ => []

/-- Before a run attaches its own outlet, the machine lets go of one that an earlier run left. -/
def release (report : Option FailureReport) (world : World) : Option FailureReport × World :=
  match world.machine.halted, world.machine.attached with
  | false, some outlet =>
    let freed := { world with machine := { world.machine with attached := none } }
    match report with
    | some { fault, held := .attached } => (some { fault, held := .detached outlet }, freed)
    | report => (report, freed.record outlet.close)
  | _, _ => (report, world)

end FailureReport

end TapeLang
