import TapeLang.Machine.Basic
import TapeLang.Text.Json

/-!
Extensions as data. An extension registers commands and event listeners; what those do is a script, made of
actions on the machine that runs it. A script can go by all that it sees there and catch what goes wrong; it
can register more. It has no loops, so no more can come of it than it spells out.
-/

namespace TapeLang

inductive Occasion where
  | command
  | programStart
  | programEnd (code : Int)
  | onError (fault : Fault)
  | beforeCommand (name : String)
  | afterCommand (name : String)

/-- What a script sees when it has to decide something. -/
structure Sight where
  machine : Machine
  occasion : Occasion
  arguments : List String

mutual

inductive Action where
  | note (tag : Json)
  | emit (bytes : Bytes)
  | emitSeen (bytes : Sight → Except Fault Bytes)
  | append (source : Bytes) (file : String) (mode : Mode)
  | resetTape
  | setPointer (value : Int)
  | setIp (value : Int)
  | clearLog
  | double
  | addArgument
  | pushArgument (text : String)
  | fail (fault : Fault)
  | register (registration : Registration)
  | branch (test : Sight → Bool) (yes no : List Action)
  | attempt (catches : Fault → Bool) (body rescue : List Action)

inductive Registration where
  | command (name : String) (minArgs : Int) (maxArgs : Option Int) (doc : String)
      (script : List Action)
  | listener (event : String) (script : List Action)
  | fail (fault : Fault)

end

instance : Inhabited Action := ⟨.resetTape⟩

instance : Inhabited Registration := ⟨.listener "" []⟩

inductive Registrar where
  | steps (registrations : List Registration)
  | notCallable

structure ExtensionModule where
  failure : Option Fault := none
  version : Option Json := none
  name : Option Json := none
  registrar : Option Registrar := none

mutual

/-- How many listeners an action can bring about, those of scripts in scripts included. -/
def Action.listenerCount : Action → Nat
  | .register registration => registration.listenerCount
  | .branch _ yes no => scriptListenerCount yes + scriptListenerCount no
  | .attempt _ body rescue => scriptListenerCount body + scriptListenerCount rescue
  | _ => 0

def Registration.listenerCount : Registration → Nat
  | .command _ _ _ _ script => scriptListenerCount script
  | .listener _ script => scriptListenerCount script + 1
  | .fail _ => 0

def scriptListenerCount : List Action → Nat
  | [] => 0
  | action :: rest => action.listenerCount + scriptListenerCount rest

end

end TapeLang
