import TapeLang.Extension.Services
import TapeLang.Files.Path
import TapeLang.Files.System

/-!
Loading extensions. A file is checked in a fixed order: it must exist, be loadable, run without a
failure, ask for the supported version, and define a callable registration entry. Its registrations
are then carried out in order, under its own name or else the stem of its path.
-/

namespace TapeLang.Extension

def loadModule (files : FileSystem) (path : String) : Except Fault ExtensionModule :=
  match files.regular? path with
  | none => .error (.extension (.notFound path))
  | some content =>
    if !path.endsWith ".py" then .error (.extension (.notLoadable path))
    else
      match content.asExtension.failure with
      | some fault => .error fault
      | none => .ok content.asExtension

/-- Version one is supported, and the truth value counts as one. -/
def isSupported : Json → Bool
  | .int version => version == 1
  | .bool version => version
  | _ => false

/-- The registrations of a module, once its version and its entry are found in order. -/
def registrations (path : String) (extension : ExtensionModule) : Except Fault (List Registration) :=
  let version := extension.version.getD (.int 1)
  if !isSupported version then .error (.extension (.wrongVersion path version.scalarText))
  else
    match extension.registrar with
    | some (.steps steps) => .ok steps
    | _ => .error (.extension (.notCallable path))

def extensionName (path : String) (extension : ExtensionModule) : String :=
  match extension.name with
  | some name => name.scalarText
  | none => Path.stem path

def registerAll (owner : String) : Services → List Registration → Except Fault Services
  | services, [] => .ok services
  | services, step :: rest => do
    let services ← services.register owner step
    registerAll owner services rest

def loadOne (files : FileSystem) (services : Services) (path : String) :
    Except Fault Services := do
  let extension ← loadModule files path
  let steps ← registrations path extension
  let owner := extensionName path extension
  let services ← registerAll owner services steps
  return { services with extensions := services.extensions ++ [owner] }

def loadAll (files : FileSystem) : Services → List String → Except Fault Services
  | services, [] => .ok services
  | services, path :: rest => do
    let services ← loadOne files services path
    loadAll files services rest

def publicNames (extension : ExtensionModule) : List String :=
  (if extension.version.isSome then ["BRAINRUST_EXTENSION_API_VERSION"] else [])
    ++ (if extension.name.isSome then ["BRAINRUST_EXTENSION_NAME"] else [])
    ++ (if extension.registrar.isSome then ["brainrust_register"] else [])

end TapeLang.Extension
