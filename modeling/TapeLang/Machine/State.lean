import TapeLang.Extension.Services
import TapeLang.Files.System
import TapeLang.Machine.Basic
import TapeLang.Stream.Source

/-!
The world that a machine runs in: where its input comes from, and the host with its files, its services and
the record of all that was done to the outside.
-/

namespace TapeLang

inductive CallDetail where
  | arguments (arguments : List String)
  | name (name : String)
  | code (code : Int)
  | fault (fault : Fault)

structure Note where
  tag : Json
  kind : String
  ip : Int
  pointer : Int
  details : List CallDetail

/-- What surrounds the machines: files and services, and the record of what was done to the
outside. -/
structure Host where
  files : FileSystem
  services : Services := {}
  trace : Array StreamEvent := #[]
  notes : Array Note := #[]
  diagnostics : Array String := #[]

namespace Host

def bindBuiltins (host : Host) : Host :=
  { host with services := { host.services with commands := host.services.commands.withBuiltins } }

/-- The bytes that were written and the texts that were shown, in the order made. -/
def output (host : Host) : Bytes :=
  host.trace.toList.flatMap fun event =>
    match event with
    | .wrote bytes => bytes
    | .shown text => Text.encode text
    | .flushed => []
    | .read _ => []

def errorText (host : Host) : String :=
  String.join (host.diagnostics.toList.map (· ++ "\n"))

end Host

structure World where
  machine : Machine
  source : Source
  host : Host

def World.record (world : World) (events : List StreamEvent) : World :=
  { world with host := { world.host with trace := world.host.trace ++ events.toArray } }

/-- An activity in a world. What it did stays done when it fails. -/
abbrev Run := EStateM Fault World

namespace Run

def modifyMachine (change : Machine → Machine) : Run Unit :=
  modify fun world => { world with machine := change world.machine }

def modifyHost (change : Host → Host) : Run Unit :=
  modify fun world => { world with host := change world.host }

def machine : Run Machine := do
  return (← get).machine

def record (events : List StreamEvent) : Run Unit :=
  modify (·.record events)

def complain (line : String) : Run Unit :=
  modifyHost fun host => { host with diagnostics := host.diagnostics.push line }

/-- Succeeds with a value or fails with a fault of the given kind. -/
def lift (kind : Cause → Fault) : Except Cause α → Run α
  | .ok value => pure value
  | .error cause => throw (kind cause)

end Run

end TapeLang
