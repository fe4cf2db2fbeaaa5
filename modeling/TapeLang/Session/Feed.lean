import TapeLang.Session.Report

/-!
Interactive sessions. Each line is parsed, appended to the live program and run; what it writes is kept
and passed on to a sink. A line that is refused changes nothing, and what is left of a line whose
program failed is skipped.
-/

namespace TapeLang

/-- What a session remembers besides its machine: all it has written, the lines it has taken, and
the latest failure. -/
structure Session where
  output : Array UInt8 := #[]
  inputs : Array String := #[]
  report : Option FailureReport := none

/-- The outcome of one line: the bytes it wrote or why it failed. -/
structure Fed where
  session : Session
  world : World
  outcome : Except Fault Bytes

namespace Session

def lineFile : String := "<repl>"

def machine (verbose : Bool) : Except ValueFault Machine :=
  Machine.create [] lineFile verbose Machine.defaultTapeSize

def file (session : Session) (report : FailureReport) (world : World) : Session × World :=
  ({ session with report := some report }, world.record (FailureReport.discard session.report))

def skipRest (world : World) : World :=
  { world with machine := { world.machine with ip := world.machine.program.size } }

/-- Runs the session's machine after it has let go of an outlet that is no longer needed. -/
def run (fuel : Nat) (session : Session) (outlet : Outlet) (world : World) :
    Option (Session × Ended) :=
  let (report, world) := FailureReport.release session.report world
  (Run.run fuel outlet world).map ({ session with report }, ·)

/-- Takes a line whose program has run. The tee of a line that succeeded is closed at once. -/
def settle (session : Session) (ended : Ended) : Fed :=
  let written := ended.outlet.captured
  let session := { session with output := session.output ++ written.toArray }
  match ended.fault with
  | none => { session, world := ended.world.record ended.outlet.close, outcome := .ok written }
  | some fault =>
    let kept :=
      if FailureReport.isWrapped ended.verdict then FailureReport.keepAttached ended.world
      else ended.world
    let rested := if fault.ofProgram then skipRest kept else kept
    let (session, world) := session.file (.ofEnded ended fault) rested
    { session, world, outcome := .error fault }

/-- Feeds one line; there is no result when the fuel does not last. -/
def feed (fuel : Nat) (session : Session) (line : String) (sink : Option Channel)
    (world : World) : Option Fed :=
  match parse (Text.encode line) lineFile .command with
  | .error fault =>
    let (session, world) := session.file { fault := .badSyntax fault } world
    some { session, world, outcome := .error (.badSyntax fault) }
  | .ok fragment =>
    let session := { session with inputs := session.inputs.push line }
    let world := { world with machine := world.machine.append fragment }
    (session.run fuel (.tee #[] sink) world).map fun (session, ended) => session.settle ended

end Session

end TapeLang
