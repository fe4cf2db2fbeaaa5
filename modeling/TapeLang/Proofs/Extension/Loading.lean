import Mathlib.Data.List.Nodup
import TapeLang.Extension.Load
import TapeLang.Proofs.Extension.Binding

/-!
Loading extensions. Whether extensions can be loaded together is a question about the files and about all
their registrations taken together, so it does not depend on the order of the paths. Neither does what is
bound to a name; the listeners and the names of the extensions follow the order.
-/

namespace TapeLang

namespace Registration

def spec? (owner : String) : Registration → Option CommandSpec
  | .command name minArgs maxArgs doc script =>
    some { name, handler := .script script, minArgs, maxArgs, origin := owner, doc }
  | _ => none

def listener? (owner : String) : Registration → Option Listener
  | .listener event script => (Event.ofName? event).map (⟨·, owner, script⟩)
  | _ => none

def commandName? : Registration → Option String
  | .command name _ _ _ _ => some name
  | _ => none

def eventName? : Registration → Option String
  | .listener event _ => some event
  | _ => none

def Raises : Registration → Prop
  | .fail _ => True
  | _ => False

theorem spec_name (owner : String) (registration : Registration) :
    (registration.spec? owner).map (·.name) = registration.commandName? := by
  cases registration <;> rfl

/-- Nothing is wrong with the registration as such: its command has a name that is free to be bound, its
event is known. -/
structure Sound (registration : Registration) : Prop where
  calls : ¬registration.Raises
  named : ∀ name, registration.commandName? = some name →
    ¬Registry.Malformed name ∧ name ∉ Registry.builtinNames
  known : ∀ event, registration.eventName? = some event → event ∈ Event.all.map (·.name)

end Registration

theorem Event.of_name_isSome_iff (name : String) :
    (Event.ofName? name).isSome = true ↔ name ∈ Event.all.map (·.name) := by
  simp [Event.ofName?]

namespace Services

def extend (services : Services) (specs : List CommandSpec) (listeners : List Listener)
    (extensions : List String) : Services where
  commands := ⟨services.commands.specs ++ specs⟩
  listeners := services.listeners ++ listeners
  extensions := services.extensions ++ extensions

def boundNames (services : Services) : List String := services.commands.specs.map (·.name)

theorem extend_nil (services : Services) : services.extend [] [] [] = services := by
  simp [extend]

theorem extend_extend (services : Services) (specs more : List CommandSpec)
    (listeners others : List Listener) (names further : List String) :
    (services.extend specs listeners names).extend more others further =
      services.extend (specs ++ more) (listeners ++ others) (names ++ further) := by
  simp [extend]

theorem bound_names_extend (services : Services) (specs : List CommandSpec)
    (listeners : List Listener) (extensions : List String) :
    (services.extend specs listeners extensions).boundNames =
      services.boundNames ++ specs.map (·.name) := by
  simp [extend, boundNames]

variable {services after : Services} {owner : String}

theorem register_eq_ok_iff (registration : Registration) :
    services.register owner registration = .ok after ↔
      registration.Sound ∧
        (∀ name, registration.commandName? = some name → name ∉ services.boundNames) ∧
        after = services.extend (registration.spec? owner).toList
          (registration.listener? owner).toList [] := by
  cases registration with
  | command name minArgs maxArgs doc script =>
      let spec : CommandSpec :=
        { name, handler := .script script, minArgs, maxArgs, origin := owner, doc }
      have registers : services.register owner (.command name minArgs maxArgs doc script) =
          ((services.commands.add spec false).mapError .extension).map ({ services with commands := · }) := by
        dsimp only [register]
        generalize services.commands.add spec false = added
        cases added <;> rfl
      have extended : services.extend [spec] [] [] =
          { services with commands := ⟨services.commands.specs ++ [spec]⟩ } := by
        simp [extend]
      rw [registers]
      change _ ↔ _ ∧ _ ∧ after = services.extend [spec] [] []
      rw [extended]
      rcases Registry.add_cases services.commands spec false with
        ⟨bound, named, own, free⟩ | ⟨⟨fault, refused⟩, why⟩
      · have sound : (Registration.command name minArgs maxArgs doc script).Sound := by
          refine ⟨id, ?_, nofun⟩
          intro other same
          cases same
          refine ⟨?_, ?_⟩
          · intro malformed
            rw [(Registry.is_name_eq_false_iff _).mpr malformed] at named
            cases named
          · intro reserved
            cases own reserved
        have absent : name ∉ services.boundNames := Registry.lookup_eq_none_iff.mp free
        rw [bound]
        simp [sound, absent, Registration.commandName?, Except.mapError, Except.map, eq_comm]
      · rw [refused]
        refine ⟨nofun, ?_⟩
        rintro ⟨sound, absent, -⟩
        obtain ⟨formed, foreign⟩ := sound.named name rfl
        rcases why with malformed | ⟨reserved, -⟩ | ⟨existing, taken⟩
        · exact absurd malformed formed
        · exact absurd reserved foreign
        · have free : services.commands.lookup name = none :=
            Registry.lookup_eq_none_iff.mpr (absent name rfl)
          cases free.symm.trans taken
  | listener event script =>
      have known := Event.of_name_isSome_iff event
      dsimp only [register, Registration.spec?, Registration.listener?, Registration.commandName?]
      cases found : Event.ofName? event with
      | none =>
          rw [found] at known
          refine ⟨nofun, ?_⟩
          rintro ⟨sound, -⟩
          cases known.mpr (sound.known event rfl)
      | some found =>
          rw [found] at known
          have sound : (Registration.listener event script).Sound := by
            refine ⟨id, nofun, ?_⟩
            intro other same
            cases same
            exact known.mp rfl
          simp [sound, extend, eq_comm]
  | fail fault =>
      refine ⟨nofun, ?_⟩
      rintro ⟨sound, -⟩
      exact (sound.calls trivial).elim

theorem bound_names_register (services : Services) (owner : String) (registration : Registration) :
    (services.extend (registration.spec? owner).toList (registration.listener? owner).toList []).boundNames =
      services.boundNames ++ registration.commandName?.toList := by
  rw [bound_names_extend, ← Option.toList_map, registration.spec_name]

end Services

namespace Extension

section Register

variable {services after : Services} {owner : String}

theorem register_all_cons (registration : Registration) (rest : List Registration) :
    registerAll owner services (registration :: rest) = .ok after ↔
      ∃ middle, services.register owner registration = .ok middle ∧
        registerAll owner middle rest = .ok after := by
  rw [registerAll]
  cases services.register owner registration with
  | ok middle => exact ⟨fun goes => ⟨middle, rfl, goes⟩, fun ⟨_, same, goes⟩ => Except.ok.inj same ▸ goes⟩
  | error fault => exact ⟨nofun, fun ⟨_, other, _⟩ => nomatch other⟩

/-- Registrations succeed when nothing is wrong with any of them and all names together are distinct. -/
theorem register_all_eq_ok_iff (steps : List Registration) (distinct : services.boundNames.Nodup) :
    registerAll owner services steps = .ok after ↔
      (∀ step ∈ steps, step.Sound) ∧
        (services.boundNames ++ steps.filterMap (·.commandName?)).Nodup ∧
        after = services.extend (steps.filterMap (·.spec? owner)) (steps.filterMap (·.listener? owner))
          [] := by
  induction steps generalizing services with
  | nil =>
      rw [registerAll]
      simp [distinct, services.extend_nil, eq_comm]
  | cons step rest ih =>
      -- the names stay distinct behind the first step, as the hypothesis for the rest asks
      let middle := services.extend (step.spec? owner).toList (step.listener? owner).toList []
      have names : middle.boundNames = services.boundNames ++ step.commandName?.toList :=
        services.bound_names_register owner step
      have whole : services.boundNames ++ (step :: rest).filterMap (·.commandName?) =
          middle.boundNames ++ rest.filterMap (·.commandName?) := by
        rw [names, List.append_assoc, List.filterMap_cons]
        cases step.commandName? <;> rfl
      have extended : middle.extend (rest.filterMap (·.spec? owner))
          (rest.filterMap (·.listener? owner)) [] =
          services.extend ((step :: rest).filterMap (·.spec? owner))
            ((step :: rest).filterMap (·.listener? owner)) [] := by
        rw [Services.extend_extend, List.filterMap_cons, List.filterMap_cons]
        cases step.spec? owner <;> cases step.listener? owner <;> rfl
      rw [register_all_cons, whole, ← extended, List.forall_mem_cons]
      constructor
      · rintro ⟨other, registered, goes⟩
        obtain ⟨sound, free, rfl⟩ := (services.register_eq_ok_iff step).mp registered
        have still : middle.boundNames.Nodup := by
          rw [names, List.nodup_append]
          refine ⟨distinct, ?_, ?_⟩
          · cases step.commandName? <;> simp
          · rintro name taken other found rfl
            exact free name (Option.mem_toList.mp found) taken
        obtain ⟨sounds, all, same⟩ := (ih still).mp goes
        exact ⟨⟨sound, sounds⟩, all, same⟩
      · rintro ⟨⟨sound, sounds⟩, all, same⟩
        have still : middle.boundNames.Nodup := (List.nodup_append.mp all).1
        refine ⟨middle, (services.register_eq_ok_iff step).mpr ⟨sound, ?_, rfl⟩,
          (ih still).mpr ⟨sounds, all, same⟩⟩
        intro name bound taken
        rw [names, List.nodup_append] at still
        exact still.2.2 name taken name (Option.mem_toList.mpr bound) rfl

end Register

def moduleAt (files : FileSystem) (path : String) : ExtensionModule :=
  ((files.regular? path).map (·.asExtension)).getD {}

def stepsAt (files : FileSystem) (path : String) : List Registration :=
  match (moduleAt files path).registrar with
  | some (.steps steps) => steps
  | _ => []

def ownerAt (files : FileSystem) (path : String) : String :=
  extensionName path (moduleAt files path)

def specsAt (files : FileSystem) (path : String) : List CommandSpec :=
  (stepsAt files path).filterMap (·.spec? (ownerAt files path))

def listenersAt (files : FileSystem) (path : String) : List Listener :=
  (stepsAt files path).filterMap (·.listener? (ownerAt files path))

def commandNamesAt (files : FileSystem) (path : String) : List String :=
  (stepsAt files path).filterMap (·.commandName?)

def eventNamesAt (files : FileSystem) (path : String) : List String :=
  (stepsAt files path).filterMap (·.eventName?)

structure Loadable (files : FileSystem) (path : String) : Prop where
  found : (files.regular? path).isSome = true
  suffix : path.endsWith ".py" = true
  runs : (moduleAt files path).failure = none
  supported : isSupported ((moduleAt files path).version.getD (.int 1)) = true
  callable : ∃ steps, (moduleAt files path).registrar = some (.steps steps)

section Load

variable {files : FileSystem} {path : String} {services after : Services}

theorem load_module_eq_ok_iff {extension : ExtensionModule} :
    loadModule files path = .ok extension ↔
      (files.regular? path).isSome = true ∧ path.endsWith ".py" = true ∧
        (moduleAt files path).failure = none ∧ extension = moduleAt files path := by
  unfold loadModule moduleAt
  cases files.regular? path with
  | none => simp
  | some content =>
      cases path.endsWith ".py" with
      | false => simp
      | true => cases failed : content.asExtension.failure <;> simp [failed, eq_comm]

theorem registrations_eq_ok_iff {extension : ExtensionModule} {steps : List Registration} :
    registrations path extension = .ok steps ↔
      isSupported (extension.version.getD (.int 1)) = true ∧ extension.registrar = some (.steps steps) := by
  unfold registrations
  cases supported : isSupported (extension.version.getD (.int 1)) with
  | false => simp [supported]
  | true =>
      cases extension.registrar with
      | none => simp [supported]
      | some registrar => cases registrar <;> simp [supported]

theorem load_one_eq_ok_iff :
    loadOne files services path = .ok after ↔
      Loadable files path ∧ ∃ middle,
        registerAll (ownerAt files path) services (stepsAt files path) = .ok middle ∧
        after = middle.extend [] [] [ownerAt files path] := by
  have named (middle : Services) : middle.extend [] [] [ownerAt files path] =
      { middle with extensions := middle.extensions ++ [ownerAt files path] } := by
    simp [Services.extend]
  unfold loadOne
  constructor
  · intro done
    cases loaded : loadModule files path with
    | error fault =>
        rw [loaded] at done
        cases done
    | ok extension =>
        rw [loaded] at done
        obtain ⟨found, suffix, runs, rfl⟩ := load_module_eq_ok_iff.mp loaded
        cases registered : registrations path (moduleAt files path) with
        | error fault =>
            simp only [bind, Except.bind, registered] at done
            cases done
        | ok steps =>
            simp only [bind, Except.bind, registered] at done
            obtain ⟨supported, callable⟩ := registrations_eq_ok_iff.mp registered
            have called : stepsAt files path = steps := by
              unfold stepsAt
              rw [callable]
            rw [called]
            refine ⟨⟨found, suffix, runs, supported, steps, callable⟩, ?_⟩
            cases all : registerAll (ownerAt files path) services steps with
            | error fault =>
                rw [ownerAt] at all
                rw [all] at done
                cases done
            | ok middle =>
                rw [ownerAt] at all
                rw [all] at done
                cases done
                exact ⟨middle, rfl, (named middle).symm⟩
  · rintro ⟨⟨found, suffix, runs, supported, steps, callable⟩, middle, all, rfl⟩
    have called : stepsAt files path = steps := by
      unfold stepsAt
      rw [callable]
    rw [called, ownerAt] at all
    rw [load_module_eq_ok_iff.mpr ⟨found, suffix, runs, rfl⟩]
    simp only [bind, Except.bind, registrations_eq_ok_iff.mpr ⟨supported, callable⟩, all, named]
    rfl

theorem load_all_cons (rest : List String) :
    loadAll files services (path :: rest) = .ok after ↔
      ∃ middle, loadOne files services path = .ok middle ∧ loadAll files middle rest = .ok after := by
  rw [loadAll]
  cases loadOne files services path with
  | ok middle => exact ⟨fun goes => ⟨middle, rfl, goes⟩, fun ⟨_, same, goes⟩ => Except.ok.inj same ▸ goes⟩
  | error fault => exact ⟨nofun, fun ⟨_, other, _⟩ => nomatch other⟩

def withAll (files : FileSystem) (services : Services) (paths : List String) : Services :=
  services.extend (paths.flatMap (specsAt files)) (paths.flatMap (listenersAt files))
    (paths.map (ownerAt files))

theorem with_all_cons (rest : List String) :
    withAll files services (path :: rest) = withAll files (withAll files services [path]) rest := by
  unfold withAll
  rw [Services.extend_extend]
  simp

theorem names_of_specs_at (files : FileSystem) (path : String) :
    (specsAt files path).map (·.name) = commandNamesAt files path := by
  unfold specsAt commandNamesAt
  rw [List.map_filterMap]
  exact List.filterMap_congr fun step _ => step.spec_name _

theorem bound_names_with_all (files : FileSystem) (services : Services) (paths : List String) :
    (withAll files services paths).boundNames =
      services.boundNames ++ paths.flatMap (commandNamesAt files) := by
  unfold withAll
  rw [Services.bound_names_extend, List.map_flatMap]
  simp only [names_of_specs_at]

theorem load_one_eq_with_all_iff (distinct : services.boundNames.Nodup) :
    loadOne files services path = .ok after ↔
      (Loadable files path ∧ ∀ step ∈ stepsAt files path, step.Sound) ∧
        (withAll files services [path]).boundNames.Nodup ∧ after = withAll files services [path] := by
  have whole : (services.extend (specsAt files path) (listenersAt files path) []).extend [] []
      [ownerAt files path] = withAll files services [path] := by
    unfold withAll
    rw [Services.extend_extend]
    simp
  rw [load_one_eq_ok_iff, bound_names_with_all, List.flatMap_singleton]
  constructor
  · rintro ⟨loadable, middle, registered, rfl⟩
    obtain ⟨sound, names, rfl⟩ := (register_all_eq_ok_iff _ distinct).mp registered
    exact ⟨⟨loadable, sound⟩, names, whole⟩
  · rintro ⟨⟨loadable, sound⟩, names, rfl⟩
    exact ⟨loadable, _, (register_all_eq_ok_iff _ distinct).mpr ⟨sound, names, rfl⟩, whole.symm⟩

theorem load_all_eq_ok_iff (paths : List String) (distinct : services.boundNames.Nodup) :
    loadAll files services paths = .ok after ↔
      (∀ path ∈ paths, Loadable files path ∧ ∀ step ∈ stepsAt files path, step.Sound) ∧
        (withAll files services paths).boundNames.Nodup ∧ after = withAll files services paths := by
  induction paths generalizing services with
  | nil =>
      have same : withAll files services [] = services := services.extend_nil
      rw [loadAll, same]
      simp [distinct, eq_comm]
  | cons path rest ih =>
      rw [load_all_cons, with_all_cons, List.forall_mem_cons]
      constructor
      · rintro ⟨middle, loaded, goes⟩
        obtain ⟨sound, free, rfl⟩ := (load_one_eq_with_all_iff distinct).mp loaded
        obtain ⟨sounds, names, same⟩ := (ih free).mp goes
        exact ⟨⟨sound, sounds⟩, names, same⟩
      · rintro ⟨⟨sound, sounds⟩, names, same⟩
        have free : (withAll files services [path]).boundNames.Nodup := by
          rw [bound_names_with_all] at names
          exact (List.nodup_append.mp names).1
        exact ⟨_, (load_one_eq_with_all_iff distinct).mpr ⟨sound, free, rfl⟩,
          (ih free).mpr ⟨sounds, names, same⟩⟩

/-- All the paths can be loaded: there is an extension at each, every event is known, and the names of all
commands together are well-formed, not built in, and distinct. -/
structure Compatible (files : FileSystem) (paths : List String) : Prop where
  loadable : ∀ path ∈ paths, Loadable files path
  calls : ∀ path ∈ paths, ∀ step ∈ stepsAt files path, ¬step.Raises
  events : ∀ event ∈ paths.flatMap (eventNamesAt files), event ∈ Event.all.map (·.name)
  named : ∀ name ∈ paths.flatMap (commandNamesAt files),
    ¬Registry.Malformed name ∧ name ∉ Registry.builtinNames
  distinct : (paths.flatMap (commandNamesAt files)).Nodup

variable {paths others : List String}

theorem compatible_iff :
    Compatible files paths ↔
      (∀ path ∈ paths, Loadable files path ∧ ∀ step ∈ stepsAt files path, step.Sound) ∧
        (paths.flatMap (commandNamesAt files)).Nodup := by
  have bound {path name} : name ∈ commandNamesAt files path ↔
      ∃ step ∈ stepsAt files path, step.commandName? = some name := List.mem_filterMap
  have heard {path event} : event ∈ eventNamesAt files path ↔
      ∃ step ∈ stepsAt files path, step.eventName? = some event := List.mem_filterMap
  constructor
  · rintro ⟨loadable, calls, events, named, distinct⟩
    refine ⟨fun path given => ⟨loadable path given, fun step taken => ?_⟩, distinct⟩
    refine ⟨calls path given step taken, fun name naming => ?_, fun event listening => ?_⟩
    · exact named name (List.mem_flatMap.mpr ⟨path, given, bound.mpr ⟨step, taken, naming⟩⟩)
    · exact events event (List.mem_flatMap.mpr ⟨path, given, heard.mpr ⟨step, taken, listening⟩⟩)
  · rintro ⟨sound, distinct⟩
    refine ⟨fun path given => (sound path given).1,
      fun path given step taken => ((sound path given).2 step taken).calls,
      fun event listed => ?_, fun name listed => ?_, distinct⟩
    · obtain ⟨path, given, here⟩ := List.mem_flatMap.mp listed
      obtain ⟨step, taken, listening⟩ := heard.mp here
      exact ((sound path given).2 step taken).known event listening
    · obtain ⟨path, given, here⟩ := List.mem_flatMap.mp listed
      obtain ⟨step, taken, naming⟩ := bound.mp here
      exact ((sound path given).2 step taken).named name naming

/-- Extensions are loaded together exactly when they are compatible, and then all they register is there. -/
theorem load_all_eq_ok_iff_compatible :
    loadAll files {} paths = .ok after ↔ Compatible files paths ∧ after = withAll files {} paths := by
  have empty : Services.boundNames {} = [] := rfl
  have free : (Services.boundNames {}).Nodup := empty ▸ .nil
  rw [load_all_eq_ok_iff paths free, compatible_iff, bound_names_with_all, empty, List.nil_append, and_assoc]

theorem exists_load_all_iff :
    (∃ services, loadAll files {} paths = .ok services) ↔ Compatible files paths := by
  constructor
  · rintro ⟨services, loaded⟩
    exact (load_all_eq_ok_iff_compatible.mp loaded).1
  · intro compatible
    exact ⟨_, load_all_eq_ok_iff_compatible.mpr ⟨compatible, rfl⟩⟩

theorem load_all_eq_with_all (goes : (loadAll files {} paths).toOption.isSome = true) :
    loadAll files {} paths = .ok (withAll files {} paths) := by
  cases loaded : loadAll files {} paths with
  | error fault =>
      rw [loaded] at goes
      cases goes
  | ok after => rw [(load_all_eq_ok_iff_compatible.mp loaded).2]

theorem Compatible.perm (permuted : paths.Perm others) (compatible : Compatible files paths) :
    Compatible files others := by
  obtain ⟨sound, distinct⟩ := compatible_iff.mp compatible
  refine compatible_iff.mpr ⟨fun path given => sound path (permuted.mem_iff.mpr given), ?_⟩
  exact (permuted.flatMap_right _).nodup_iff.mp distinct

end Load

end Extension

namespace Registry

variable {registry other : Registry}

theorem lookup_eq_some_iff_of_nodup (distinct : (registry.specs.map (·.name)).Nodup) {name : String}
    {spec : CommandSpec} :
    registry.lookup name = some spec ↔ spec ∈ registry.specs ∧ spec.name = name := by
  constructor
  · intro found
    exact ⟨List.mem_of_find?_eq_some found, name_of_lookup found⟩
  · rintro ⟨listed, rfl⟩
    cases found : registry.lookup spec.name with
    | none => exact absurd (List.mem_map_of_mem listed) (lookup_eq_none_iff.mp found)
    | some first =>
        have same := List.inj_on_of_nodup_map distinct (List.mem_of_find?_eq_some found) listed
          (name_of_lookup found)
        rw [same]

theorem lookup_eq_of_perm (permuted : registry.specs.Perm other.specs)
    (distinct : (registry.specs.map (·.name)).Nodup) (name : String) :
    registry.lookup name = other.lookup name := by
  have likewise : (other.specs.map (·.name)).Nodup := (permuted.map _).nodup_iff.mp distinct
  apply Option.ext
  intro spec
  rw [lookup_eq_some_iff_of_nodup distinct, lookup_eq_some_iff_of_nodup likewise, permuted.mem_iff]

theorem names_eq_of_perm (permuted : registry.specs.Perm other.specs) : registry.names = other.names := by
  have sorted (names : List String) :
      (names.mergeSort fun a b => decide (a ≤ b)).Pairwise (· ≤ ·) := by
    apply List.Pairwise.imp of_decide_eq_true
    apply List.pairwise_mergeSort
    · intro a b c
      simpa using String.le_trans
    · intro a b
      simpa using String.le_total a b
  have same := (List.mergeSort_perm (registry.specs.map (·.name)) fun a b => decide (a ≤ b)).trans
    ((permuted.map _).trans (List.mergeSort_perm (other.specs.map (·.name)) fun a b => decide (a ≤ b)).symm)
  exact same.eq_of_pairwise (fun a b _ _ => String.le_antisymm) (sorted _) (sorted _)

end Registry

namespace Extension

theorem listeners_of_with_all (files : FileSystem) (paths : List String) (event : Event) :
    (withAll files {} paths).listenersOf event =
      paths.flatMap fun path => (listenersAt files path).filter (·.event == event) := by
  exact List.filter_flatMap

/-- Whether extensions can be loaded, and what is bound to a name, does not depend on the order of the paths;
their names and their listeners come in that order. -/
theorem load_order_irrelevant (files : FileSystem) {paths others : List String}
    (permuted : paths.Perm others) :
    ((∃ services, loadAll files {} paths = .ok services) ↔ Compatible files paths) ∧
      ((∃ services, loadAll files {} others = .ok services) ↔ Compatible files paths) ∧
      ∀ left right, loadAll files {} paths = .ok left → loadAll files {} others = .ok right →
        left.commands.names = right.commands.names ∧
        (∀ name, left.commands.lookup name = right.commands.lookup name) ∧
        left.extensions = paths.map (ownerAt files) ∧
        right.extensions = others.map (ownerAt files) ∧
        (∀ event, left.listenersOf event =
          paths.flatMap fun path => (listenersAt files path).filter (·.event == event)) ∧
        ∀ event, right.listenersOf event =
          others.flatMap fun path => (listenersAt files path).filter (·.event == event) := by
  refine ⟨exists_load_all_iff, ?_, fun left right loaded reloaded => ?_⟩
  · rw [exists_load_all_iff]
    exact ⟨.perm permuted.symm, .perm permuted⟩
  · obtain ⟨compatible, rfl⟩ := load_all_eq_ok_iff_compatible.mp loaded
    obtain ⟨-, rfl⟩ := load_all_eq_ok_iff_compatible.mp reloaded
    have specs : (withAll files {} paths).commands.specs.Perm (withAll files {} others).commands.specs :=
      permuted.flatMap_right _
    have distinct : (withAll files {} paths).boundNames.Nodup :=
      bound_names_with_all files {} paths ▸ compatible.distinct
    exact ⟨Registry.names_eq_of_perm specs, Registry.lookup_eq_of_perm specs distinct, rfl, rfl,
      listeners_of_with_all files paths, listeners_of_with_all files others⟩

def twoExtensions : FileSystem where
  directory := "/"
  openFile path :=
    if path = "a.py" then .ok (.extension {
      name := some (.str "first")
      registrar := some (.steps [.listener "program_start" [], .command "quiet" 0 none "" [],
        .listener "program_start" []]) })
    else .ok (.extension {
      name := some (.str "second")
      registrar := some (.steps [.command "loud" 1 (some 2) "shouts" [], .listener "program_end" [],
        .listener "program_start" []]) })

/-- Two extensions bind the same commands in either order, and are told of a start in the order of
loading. -/
theorem two_extensions_in_either_order :
    ∃ (files : FileSystem) (left right : Services),
      ["a.py", "b.py"].Perm ["b.py", "a.py"] ∧
      loadAll files {} ["a.py", "b.py"] = .ok left ∧ loadAll files {} ["b.py", "a.py"] = .ok right ∧
      left.boundNames = ["quiet", "loud"] ∧ right.boundNames = ["loud", "quiet"] ∧
      left.commands.names = right.commands.names ∧
      left.commands.lookup "quiet" = right.commands.lookup "quiet" ∧
      left.extensions = ["first", "second"] ∧ right.extensions = ["second", "first"] ∧
      (left.listenersOf .programStart).map (·.owner) = ["first", "first", "second"] ∧
      (right.listenersOf .programStart).map (·.owner) = ["second", "first", "first"] := by
  have permuted : ["a.py", "b.py"].Perm ["b.py", "a.py"] := .swap ..
  obtain ⟨loads, reloads, same⟩ := load_order_irrelevant twoExtensions permuted
  have goes : (loadAll twoExtensions {} ["a.py", "b.py"]).toOption.isSome = true := by decide +kernel
  cases loaded : loadAll twoExtensions {} ["a.py", "b.py"] with
  | error fault =>
      rw [loaded] at goes
      cases goes
  | ok left =>
      obtain ⟨right, reloaded⟩ := reloads.mpr (loads.mp ⟨left, loaded⟩)
      obtain ⟨names, found, owners, permutedOwners, told, permutedTold⟩ := same left right loaded reloaded
      refine ⟨twoExtensions, left, right, permuted, loaded, reloaded, ?_, ?_, names, found _, ?_, ?_, ?_, ?_⟩
      · rw [(load_all_eq_ok_iff_compatible.mp loaded).2]
        decide +kernel
      · rw [(load_all_eq_ok_iff_compatible.mp reloaded).2]
        decide +kernel
      · rw [owners]
        decide +kernel
      · rw [permutedOwners]
        decide +kernel
      · rw [told]
        decide +kernel
      · rw [permutedTold]
        decide +kernel

end Extension

end TapeLang
