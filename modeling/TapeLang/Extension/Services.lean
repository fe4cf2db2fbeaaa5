import TapeLang.Extension.Registry

/-!
What machines share: the command registry, the event listeners and the names of the loaded extensions.
-/

namespace TapeLang

inductive Event where
  | programStart
  | programEnd
  | onError
  | beforeCommand
  | afterCommand
  deriving DecidableEq, Repr

namespace Event

def all : List Event := [.afterCommand, .beforeCommand, .onError, .programEnd, .programStart]

def name : Event → String
  | .programStart => "program_start"
  | .programEnd => "program_end"
  | .onError => "on_error"
  | .beforeCommand => "before_command"
  | .afterCommand => "after_command"

def ofName? (name : String) : Option Event :=
  all.find? (·.name == name)

end Event

/-- A script that runs at every delivery of an event, and the extension that registered it. -/
structure Listener where
  event : Event
  owner : String
  script : List Action

structure Services where
  commands : Registry := {}
  listeners : List Listener := []
  extensions : List String := []

namespace Services

def listenersOf (services : Services) (event : Event) : List Listener :=
  services.listeners.filter (·.event == event)

def register (services : Services) (owner : String) : Registration → Except Fault Services
  | .command name minArgs maxArgs doc script => do
    let spec : CommandSpec :=
      { name, handler := .script script, minArgs, maxArgs, origin := owner, doc }
    let commands ← (services.commands.add spec false).mapError .extension
    return { services with commands }
  | .listener event script =>
    match Event.ofName? event with
    | some event => .ok { services with listeners := services.listeners ++ [⟨event, owner, script⟩] }
    | none => .error (.extension (.unknownEvent event (Event.all.map (·.name))))
  | .fail fault => .error fault

end Services

end TapeLang
