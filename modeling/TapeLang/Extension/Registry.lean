import TapeLang.Extension.Script
import TapeLang.Text.Lower

/-!
The command registry. A name is one lower-case word, is bound once, and keeps its binding. Two names
are built in, and no extension may bind them.
-/

namespace TapeLang

inductive Handler where
  | includeFiles
  | clearTape
  | script (actions : List Action)

structure CommandSpec where
  name : String
  handler : Handler
  minArgs : Int := 0
  maxArgs : Option Int := none
  origin : String := "builtin"
  doc : String := ""

namespace CommandSpec

def accepts (spec : CommandSpec) (given : Int) : Bool :=
  spec.minArgs ≤ given && spec.maxArgs.all (given ≤ ·)

def arity (spec : CommandSpec) : String :=
  match spec.maxArgs with
  | none => "at least " ++ Text.decimal spec.minArgs
  | some maxArgs =>
    if maxArgs = spec.minArgs then Text.decimal spec.minArgs
    else Text.decimal spec.minArgs ++ " to " ++ Text.decimal maxArgs

end CommandSpec

structure Registry where
  specs : List CommandSpec := []

namespace Registry

def builtinNames : List String := ["include", "clear"]

def isName (name : String) : Bool :=
  !name.isEmpty && name == Text.lower name && name.toList.all fun c => !Text.isBlank c && c != ';'

def lookup (registry : Registry) (name : String) : Option CommandSpec :=
  registry.specs.find? (·.name == name)

def contains (registry : Registry) (name : String) : Bool :=
  (registry.lookup name).isSome

/-- Binds a command. Only the machine itself may bind a built-in name. -/
def add (registry : Registry) (spec : CommandSpec) (builtin : Bool) :
    Except ExtensionFault Registry :=
  if !isName spec.name then .error (.malformedName spec.name)
  else if builtinNames.contains spec.name && !builtin then .error (.builtinName spec.name)
  else
    match registry.lookup spec.name with
    | some existing => .error (.takenName spec.name existing.origin)
    | none => .ok { specs := registry.specs ++ [spec] }

def names (registry : Registry) : List String :=
  (registry.specs.map (·.name)).mergeSort fun a b => decide (a ≤ b)

def includeSpec : CommandSpec where
  name := "include"
  handler := .includeFiles
  minArgs := 1
  doc := "Append other source files"

def clearSpec : CommandSpec where
  name := "clear"
  handler := .clearTape
  maxArgs := some 0
  doc := "Zero the tape"

/-- Binds a built-in command unless its name is bound. -/
def bindBuiltin (registry : Registry) (spec : CommandSpec) : Except ExtensionFault Registry :=
  if registry.contains spec.name then .ok registry else registry.add spec true

/-- Binds the built-in commands, once for all machines that share the registry. -/
def bindBuiltins (registry : Registry) : Except ExtensionFault Registry := do
  let bound ← registry.bindBuiltin includeSpec
  bound.bindBuiltin clearSpec

theorem bind_builtin_ok (registry : Registry) {spec : CommandSpec} (named : isName spec.name = true) :
    ∃ bound, registry.bindBuiltin spec = .ok bound := by
  unfold bindBuiltin contains add
  cases registry.lookup spec.name with
  | some existing => exact ⟨registry, rfl⟩
  | none => exact ⟨⟨registry.specs ++ [spec]⟩, by simp [named]⟩

theorem include_named : isName includeSpec.name = true := by decide +kernel

theorem clear_named : isName clearSpec.name = true := by decide +kernel

theorem bind_builtins_ok (registry : Registry) : ∃ bound, registry.bindBuiltins = .ok bound := by
  obtain ⟨first, included⟩ := registry.bind_builtin_ok include_named
  unfold bindBuiltins
  rw [included]
  exact first.bind_builtin_ok clear_named

def withBuiltins (registry : Registry) : Registry :=
  match done : registry.bindBuiltins with
  | .ok bound => bound
  | .error _ => absurd registry.bind_builtins_ok (by simp [done])

end Registry

end TapeLang
