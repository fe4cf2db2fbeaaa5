import TapeLang.Machine.Script

/-!
Dispatching commands. An unknown or empty name and a wrong number of arguments are refused before
anything is called; otherwise the listeners before it, the handler, and the listeners after it run on
one list of arguments.
-/

namespace TapeLang.Run

/-- Notes a file that could not be opened, and goes on. -/
def skipFile (path : String) (fault : FileFault) : Run Unit := do
  modifyMachine fun machine => { machine with skipped := machine.skipped.push path }
  modifyMachine (·.logEvent "INCLUDE_SKIPPED" [("path", .str path), ("reason", .str fault.message)])
  complain ("Warning: skipping include '" ++ path ++ "': " ++ fault.message)

/-- Parses the files in order behind what is already loaded. Commands are not recognised in them. -/
def loadFiles : List Instruction → List String → Run (List Instruction)
  | loaded, [] => return loaded
  | loaded, path :: rest => do
    match (← get).host.files.read path with
    | .ok source =>
      let fragment ← lift .badSyntax (parse source path .normal)
      modifyMachine (·.logEvent "INCLUDE" [("path", .str path)])
      loadFiles (loaded ++ relocate loaded.length fragment) rest
    | .error (.file fault) =>
      skipFile path fault
      loadFiles loaded rest
    | .error fault => throw fault

/-- Nothing is appended unless every file that opens can be parsed. -/
def includeFiles (paths : List String) : Run Unit := do
  let loaded ← loadFiles [] paths
  modifyMachine (·.append loaded)

def clearByte : UInt8 := 13

def clearTape : Run Unit := do
  modifyMachine (·.resetTape)
  emit [clearByte]

/-- Calls the handler of a command and returns the arguments as it leaves them. -/
def handle (spec : CommandSpec) (arguments : List String) : Run (List String) :=
  match spec.handler with
  | .includeFiles => do
    includeFiles arguments
    return arguments
  | .clearTape => do
    clearTape
    return arguments
  | .script actions => performAll ⟨spec.origin, .command⟩ arguments actions

def resolve (registry : Registry) (text : String) (ip : Int) : Except RuntimeFault CommandSpec :=
  let name := commandName text
  let arguments := commandArguments text
  match if name.isEmpty then none else registry.lookup name with
  | none =>
    .error { cause := .unsupported name arguments, ip := some ip, rule := some "command" }
  | some spec =>
    if spec.accepts arguments.length then .ok spec
    else
      .error {
        cause := .wrongArity name spec.arity arguments.length
        ip := some ip
        rule := some name
      }

def command (text : String) (ip : Int) : Run Unit := do
  let spec ← lift .runtime (resolve (← get).host.services.commands text ip)
  let name := commandName text
  let arguments ← notify .beforeCommand (.beforeCommand name) (commandArguments text)
  let arguments ← handle spec arguments
  discard <| notify .afterCommand (.afterCommand name) arguments

end TapeLang.Run
