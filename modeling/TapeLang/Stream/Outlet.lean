import TapeLang.Fault

/-!
Where output bytes go. A channel is an outer stream whose calls may fail, each by its number. A tee
keeps what is written through it and passes it on to a channel, if there is one.
-/

namespace TapeLang

/-- A call on a stream: a write or flush that succeeded, a read with the byte it brought, or a text
that the front end shows. -/
inductive StreamEvent where
  | wrote (bytes : Bytes)
  | flushed
  | read (byte : Option UInt8)
  | shown (text : String)
  deriving DecidableEq, Repr

/-- An outer stream: which write and flush calls fail, counted from zero, and how many there were. -/
structure Channel where
  canFlush : Bool := true
  writeFault : Nat → Option Fault := fun _ => none
  flushFault : Nat → Option Fault := fun _ => none
  writes : Nat := 0
  flushes : Nat := 0

structure Called (Stream : Type) where
  stream : Stream
  events : List StreamEvent := []
  fault : Option Fault := none

namespace Channel

def write (channel : Channel) (bytes : Bytes) : Called Channel :=
  let stream := { channel with writes := channel.writes + 1 }
  match channel.writeFault channel.writes with
  | none => { stream, events := [.wrote bytes] }
  | some fault => { stream, fault := some fault }

def flush (channel : Channel) : Called Channel :=
  let stream := { channel with flushes := channel.flushes + 1 }
  match channel.flushFault channel.flushes with
  | none => { stream, events := [.flushed] }
  | some fault => { stream, fault := some fault }

end Channel

inductive Outlet where
  | direct (channel : Channel)
  | tee (captured : Array UInt8) (sink : Option Channel)

namespace Outlet

def captured : Outlet → Bytes
  | .direct _ => []
  | .tee captured _ => captured.toList

/-- A tee keeps the bytes before it passes them on. -/
def write (outlet : Outlet) (bytes : Bytes) : Called Outlet :=
  match outlet with
  | .direct channel =>
    let called := channel.write bytes
    { called with stream := .direct called.stream }
  | .tee captured none => { stream := .tee (captured ++ bytes.toArray) none }
  | .tee captured (some sink) =>
    let called := sink.write bytes
    { called with stream := .tee (captured ++ bytes.toArray) (some called.stream) }

/-- A channel that cannot be flushed is left alone when it is used directly; a tee insists. -/
def flush : Outlet → Called Outlet
  | .direct channel =>
    if channel.canFlush then
      let called := channel.flush
      { called with stream := .direct called.stream }
    else { stream := .direct channel }
  | .tee captured none => { stream := .tee captured none }
  | .tee captured (some sink) =>
    if sink.canFlush then
      let called := sink.flush
      { called with stream := .tee captured (some called.stream) }
    else { stream := .tee captured (some sink), fault := some .cannotFlush }

/-- Closing a tee flushes it once more, and a failure of that is of no consequence. -/
def close : Outlet → List StreamEvent
  | .direct _ => []
  | .tee captured sink => (flush (.tee captured sink)).events

end Outlet

end TapeLang
