import TapeLang.Proofs.Machine.Activity
import TapeLang.Proofs.Program.Growth

/-!
Machines on which only the built-in commands are bound and nothing listens. Dispatching then comes down
to looking the command up and calling its handler. Loading files changes nothing but what is noted about
it; an include that succeeds makes the program grow.
-/

namespace TapeLang

structure Services.Builtin (services : Services) : Prop where
  silent : services.listeners = []
  specs : services.commands.specs = [Registry.includeSpec, Registry.clearSpec]

theorem Host.bind_builtins_builtin (host : Host) (bare : host.services = {}) :
    host.bindBuiltins.services.Builtin := by
  constructor
  · rw [Host.bindBuiltins, bare]
  · rw [Host.bindBuiltins, bare]
    rfl

def FileSystem.uniform (content : FileContent) : FileSystem := ⟨"/", fun _ => .ok content⟩

def FileSystem.vacant : FileSystem := ⟨"/", fun path => .error (.missing path)⟩

/-- What a new machine is set up with. There is always a first cell. -/
structure Setup where
  file : String := "<string>"
  verbose : Bool := false
  program : List Instruction := []
  furtherCells : Nat := 4
  source : Source := .ofBytes []
  files : FileSystem := .uniform (.bytes [])
  services : Services := {}

namespace Setup

def tapeSize (setup : Setup) : Nat := setup.furtherCells + 1

def machine (setup : Setup) : Machine where
  file := setup.file
  verbose := setup.verbose
  program := setup.program.toArray
  tape := .blank setup.tapeSize
  log := Machine.seedLog

def world (setup : Setup) : World where
  machine := setup.machine
  source := setup.source
  host := Host.bindBuiltins { files := setup.files, services := setup.services }

theorem create_machine (setup : Setup) :
    Machine.create setup.program setup.file setup.verbose setup.tapeSize = .ok setup.machine := by
  have roomy : ¬(setup.tapeSize : Int) < 1 := by
    unfold tapeSize
    omega
  rw [Machine.create, if_neg roomy]
  rfl

theorem builtin (setup : Setup) (bare : setup.services = {}) : setup.world.host.services.Builtin :=
  Host.bind_builtins_builtin _ bare

end Setup

/-- The second world is the first one but for what was noted in between: log entries, skipped paths
and diagnostics. -/
def World.Noted (before after : World) : Prop :=
  ∃ log skipped diagnostics, after =
    { before with
      machine := { before.machine with log, skipped }
      host := { before.host with diagnostics } }

theorem World.Noted.refl (world : World) : world.Noted world :=
  ⟨world.machine.log, world.machine.skipped, world.host.diagnostics, rfl⟩

theorem World.Noted.trans {first second third : World} (before : first.Noted second)
    (after : second.Noted third) : first.Noted third := by
  rcases before with ⟨_, _, _, rfl⟩
  rcases after with ⟨log, skipped, diagnostics, rfl⟩
  exact ⟨log, skipped, diagnostics, rfl⟩

theorem World.Noted.files_eq {before after : World} (noted : before.Noted after) :
    after.host.files = before.host.files := by
  rcases noted with ⟨_, _, _, rfl⟩
  rfl

theorem World.noted_log_event (world : World) (rule : String) (details : List (String × Json)) :
    world.Noted { world with machine := world.machine.logEvent rule details } :=
  ⟨_, world.machine.skipped, world.host.diagnostics, rfl⟩

namespace Run

theorem yields_skip_file (path : String) (fault : FileFault) (world : World) :
    Yields (skipFile path fault) world (fun _ after => world.Noted after) fun _ _ => False :=
  ⟨_, _, _, rfl⟩

theorem notify_unlistened {event : Event} (occasion : Occasion) (arguments : List String) {world : World}
    (nobody : world.host.services.listenersOf event = []) :
    notify event occasion arguments world = .ok arguments world := by
  have delivered : deliver event occasion arguments world = .ok arguments world := by
    change deliverFrom event occasion (deliveryBound (world.host.services.listenersOf event)) 0
      arguments world = _
    rw [nobody]
    rfl
  unfold notify
  rw [delivered]

theorem notify_silent (event : Event) (occasion : Occasion) (arguments : List String) {world : World}
    (silent : world.host.services.listeners = []) :
    notify event occasion arguments world = .ok arguments world := by
  have nobody : world.host.services.listenersOf event = [] := by
    rw [Services.listenersOf, silent]
    rfl
  exact notify_unlistened occasion arguments nobody

/-- How looking up a command can end: its name is not bound, its arguments are not accepted, or it is
found. Where it stands matters to the fault only. -/
theorem resolve_cases (registry : Registry) (text : String) :
    ((commandName text = "" ∨ registry.lookup (commandName text) = none) ∧
        ∀ ip, resolve registry text ip = .error {
          cause := .unsupported (commandName text) (commandArguments text)
          ip := some ip
          rule := some "command" }) ∨
      ∃ spec, registry.lookup (commandName text) = some spec ∧
        ((spec.accepts (commandArguments text).length = false ∧
            ∀ ip, resolve registry text ip = .error {
              cause := .wrongArity (commandName text) spec.arity (commandArguments text).length
              ip := some ip
              rule := some (commandName text) }) ∨
          (spec.accepts (commandArguments text).length = true ∧
            ∀ ip, resolve registry text ip = .ok spec)) := by
  by_cases empty : (commandName text).isEmpty
  · left
    refine ⟨.inl (String.isEmpty_iff.mp empty), ?_⟩
    intro ip
    simp only [resolve, if_pos empty]
  · cases found : registry.lookup (commandName text) with
    | none =>
        left
        refine ⟨.inr rfl, ?_⟩
        intro ip
        simp only [resolve, if_neg empty, found]
    | some spec =>
        right
        refine ⟨spec, rfl, ?_⟩
        cases accepted : spec.accepts (commandArguments text).length with
        | false => exact .inl ⟨rfl, by simp [resolve, empty, found, accepted]⟩
        | true => exact .inr ⟨rfl, by simp [resolve, empty, found, accepted]⟩

theorem lookup_builtin {registry : Registry} {name : String} {spec : CommandSpec}
    (specs : registry.specs = [Registry.includeSpec, Registry.clearSpec])
    (found : registry.lookup name = some spec) :
    (name = "include" ∧ spec = Registry.includeSpec) ∨
      (name = "clear" ∧ spec = Registry.clearSpec) := by
  rw [Registry.lookup, specs] at found
  have bound := List.find?_some found
  have member := List.mem_of_find?_eq_some found
  have named : spec.name = name := by simpa using bound
  rw [List.mem_cons, List.mem_singleton] at member
  rcases member with rfl | rfl
  · exact .inl ⟨named.symm, rfl⟩
  · exact .inr ⟨named.symm, rfl⟩

theorem resolve_builtin {services : Services} (builtin : services.Builtin) {text : String} {ip : Int}
    {spec : CommandSpec} (resolved : resolve services.commands text ip = .ok spec) :
    (commandName text = "include" ∧ spec = Registry.includeSpec) ∨
      (commandName text = "clear" ∧ spec = Registry.clearSpec) := by
  rcases resolve_cases services.commands text with ⟨-, refused⟩ | ⟨other, found, ⟨-, refused⟩ | ⟨-, resolves⟩⟩
  · cases (refused ip).symm.trans resolved
  · cases (refused ip).symm.trans resolved
  · cases (resolves ip).symm.trans resolved
    exact lookup_builtin builtin.specs found

inductive LoadFault (files : FileSystem) (paths : List String) : Fault → Prop where
  | badSyntax {path : String} {source : Bytes} {fault : SyntaxFault} (named : path ∈ paths)
      (opened : files.read path = .ok source) (refused : parse source path .normal = .error fault) :
      LoadFault files paths (.badSyntax fault)
  | embeddedNul {path : String} (named : path ∈ paths) (nul : path.toList.contains '\x00' = true) :
      LoadFault files paths (.value .embeddedNul)

theorem LoadFault.later {files : FileSystem} {path : String} {paths : List String} {fault : Fault}
    (found : LoadFault files paths fault) : LoadFault files (path :: paths) fault := by
  cases found with
  | badSyntax named opened refused =>
      exact .badSyntax (List.mem_cons_of_mem path named) opened refused
  | embeddedNul named nul => exact .embeddedNul (List.mem_cons_of_mem path named) nul

theorem read_error {files : FileSystem} {path : String} {fault : Fault}
    (failed : files.read path = .error fault) :
    (∃ reason, fault = .file reason) ∨
      (path.toList.contains '\x00' = true ∧ fault = .value .embeddedNul) := by
  unfold FileSystem.read at failed
  split at failed
  case isTrue nul => cases failed; exact .inr ⟨nul, rfl⟩
  case isFalse =>
    split at failed
    · cases failed
    · cases failed; exact .inl ⟨_, rfl⟩

/-- Files are loaded one behind the other, and nothing changes but what is noted. -/
theorem yields_load_files (loaded : List Instruction) (paths : List String) (world : World) :
    Yields (loadFiles loaded paths) world
      (fun result after => world.Noted after ∧ Grows loaded result)
      (fun fault after => world.Noted after ∧ LoadFault world.host.files paths fault) := by
  induction paths generalizing loaded world with
  | nil => exact ⟨.refl world, .refl⟩
  | cons path rest ih =>
      rw [loadFiles, yields_bind, yields_get]
      cases opened : world.host.files.read path with
      | ok source =>
          rw [yields_bind, yields_lift]
          constructor
          · intro fragment accepted
            rw [yields_bind, yields_modify_machine]
            have logged := world.noted_log_event "INCLUDE" [("path", .str path)]
            apply (ih (loaded ++ relocate loaded.length fragment) _).mono
            · intro result after read
              rcases read with ⟨noted, grown⟩
              exact ⟨logged.trans noted, (Grows.refl.append accepted).trans grown⟩
            · intro fault after stopped
              rcases stopped with ⟨noted, found⟩
              exact ⟨logged.trans noted, found.later⟩
          · intro fault refused
            exact ⟨.refl world, .badSyntax List.mem_cons_self opened refused⟩
      | error fault =>
          rcases read_error opened with ⟨reason, rfl⟩ | ⟨nul, rfl⟩
          · apply (yields_skip_file path reason world).bind_sure
            intro _ middle skipped
            apply (ih loaded middle).mono
            · intro result after read
              rcases read with ⟨noted, grown⟩
              exact ⟨skipped.trans noted, grown⟩
            · intro fault after stopped
              rcases stopped with ⟨noted, found⟩
              rw [skipped.files_eq] at found
              exact ⟨skipped.trans noted, found.later⟩
          · exact ⟨.refl world, .embeddedNul List.mem_cons_self nul⟩

end Run

end TapeLang
