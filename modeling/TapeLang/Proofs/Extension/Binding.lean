import TapeLang.Proofs.Machine.Activity

/-!
Bindings of commands in services that machines share. Whatever is registered and whenever machines are
built, in any order: a name is bound once and keeps its first binding, every bound name is one lower-case
word, only machines bind the built-in names, and nothing that was registered can keep a machine from being
built.
-/

namespace TapeLang

namespace Registry

/-- The text can name no command: it is empty, not in lower case, or holds a blank or a terminator. -/
def Malformed (name : String) : Prop :=
  name = "" ∨ name ≠ Text.lower name ∨ ∃ c ∈ name.toList, Text.isBlank c = true ∨ c = ';'

theorem is_name_eq_false_iff (name : String) : isName name = false ↔ Malformed name := by
  have marks : (name.toList.all fun c => !Text.isBlank c && c != ';') = false ↔
      ∃ c ∈ name.toList, Text.isBlank c = true ∨ c = ';' := by
    rw [List.all_eq_false]
    apply exists_congr
    intro c
    cases Text.isBlank c <;> simp
  unfold isName Malformed
  rw [Bool.and_eq_false_iff, Bool.and_eq_false_iff, marks, or_assoc]
  simp

variable {registry after : Registry} {spec : CommandSpec} {builtin : Bool} {name : String}

theorem name_of_lookup (found : registry.lookup name = some spec) : spec.name = name := by
  simpa using List.find?_some found

theorem lookup_eq_none_iff : registry.lookup name = none ↔ name ∉ registry.specs.map (·.name) := by
  simp [lookup, List.find?_eq_none]

theorem add_cases (registry : Registry) (spec : CommandSpec) (builtin : Bool) :
    (registry.add spec builtin = .ok ⟨registry.specs ++ [spec]⟩ ∧ isName spec.name = true ∧
        (spec.name ∈ builtinNames → builtin = true) ∧ registry.lookup spec.name = none) ∨
      (∃ fault, registry.add spec builtin = .error fault) ∧
        (Malformed spec.name ∨ (spec.name ∈ builtinNames ∧ builtin = false) ∨
          ∃ existing, registry.lookup spec.name = some existing) := by
  unfold add
  cases named : isName spec.name with
  | false => exact .inr ⟨⟨_, rfl⟩, .inl ((is_name_eq_false_iff _).mp named)⟩
  | true =>
      by_cases kept : spec.name ∈ builtinNames ∧ builtin = false
      · right
        refine ⟨⟨.builtinName spec.name, ?_⟩, .inr (.inl kept)⟩
        rw [if_neg (by simp), if_pos (by simp [kept])]
      · have free : spec.name ∈ builtinNames → builtin = true := by
          intro reserved
          cases builtin with
          | false => exact absurd ⟨reserved, rfl⟩ kept
          | true => rfl
        have passes : ¬(builtinNames.contains spec.name && !builtin) = true := by
          simpa using free
        rw [if_neg (by simp), if_neg passes]
        cases found : registry.lookup spec.name with
        | none => exact .inl ⟨rfl, rfl, free, rfl⟩
        | some existing => exact .inr ⟨⟨_, rfl⟩, .inr (.inr ⟨existing, rfl⟩)⟩

theorem lookup_append {other : CommandSpec} (found : registry.lookup name = some other)
    (spec : CommandSpec) : lookup ⟨registry.specs ++ [spec]⟩ name = some other := by
  unfold lookup at found ⊢
  rw [List.find?_append, found]
  rfl

theorem lookup_append_self (free : registry.lookup spec.name = none) :
    lookup ⟨registry.specs ++ [spec]⟩ spec.name = some spec := by
  unfold lookup at free ⊢
  rw [List.find?_append, free]
  simp

theorem lookup_of_add (added : registry.add spec builtin = .ok after) :
    after.lookup spec.name = some spec := by
  rcases add_cases registry spec builtin with ⟨bound, -, -, free⟩ | ⟨⟨fault, refused⟩, -⟩
  · cases bound.symm.trans added
    exact lookup_append_self free
  · cases refused.symm.trans added

def Keeps (before after : Registry) : Prop :=
  ∀ name spec, before.lookup name = some spec → after.lookup name = some spec

theorem Keeps.refl (registry : Registry) : registry.Keeps registry := fun _ _ found => found

theorem Keeps.trans {first second third : Registry} (before : first.Keeps second)
    (after : second.Keeps third) : first.Keeps third :=
  fun name spec found => after name spec (before name spec found)

/-- Every name is one lower-case word and is bound once, and the built-in names are bound to the built-in
commands. -/
structure Orderly (registry : Registry) : Prop where
  named : ∀ spec ∈ registry.specs, isName spec.name = true
  distinct : (registry.specs.map (·.name)).Nodup
  reserved : ∀ spec ∈ registry.specs, spec.name ∈ builtinNames →
    spec = includeSpec ∨ spec = clearSpec

namespace Orderly

theorem empty : Orderly {} where
  named := by simp
  distinct := .nil
  reserved := by simp

theorem append (orderly : registry.Orderly) (named : isName spec.name = true)
    (free : registry.lookup spec.name = none)
    (reserved : spec.name ∈ builtinNames → spec = includeSpec ∨ spec = clearSpec) :
    Orderly ⟨registry.specs ++ [spec]⟩ where
  named other found := by
    rcases List.mem_append.mp found with earlier | last
    · exact orderly.named other earlier
    · rw [List.mem_singleton.mp last]
      exact named
  distinct := by
    have absent := lookup_eq_none_iff.mp free
    rw [List.map_append, List.nodup_append]
    refine ⟨orderly.distinct, by simp, ?_⟩
    intro earlier found last same
    rw [List.map_singleton, List.mem_singleton] at same
    rintro rfl
    rw [same] at found
    exact absent found
  reserved other found := by
    rcases List.mem_append.mp found with earlier | last
    · exact orderly.reserved other earlier
    · rw [List.mem_singleton.mp last]
      exact reserved

/-- What anyone binds keeps the order, since the built-in names are not theirs to bind. -/
theorem add (orderly : registry.Orderly) (added : registry.add spec false = .ok after) :
    after.Orderly ∧ registry.Keeps after := by
  rcases add_cases registry spec false with ⟨bound, named, own, free⟩ | ⟨⟨fault, refused⟩, -⟩
  · cases bound.symm.trans added
    have foreign : spec.name ∉ builtinNames := by
      intro reserved
      cases own reserved
    refine ⟨orderly.append named free fun reserved => absurd reserved foreign, ?_⟩
    intro name other found
    exact lookup_append found spec
  · cases refused.symm.trans added

theorem not_malformed (orderly : registry.Orderly) (found : registry.lookup name = some spec) :
    ¬Malformed name := by
  have named := orderly.named spec (List.mem_of_find?_eq_some found)
  rw [name_of_lookup found] at named
  intro malformed
  rw [(is_name_eq_false_iff name).mpr malformed] at named
  cases named

theorem names_increase (orderly : registry.Orderly) : registry.names.Pairwise (· < ·) := by
  have sorted : registry.names.Pairwise fun a b => decide (a ≤ b) = true := by
    apply List.pairwise_mergeSort
    · intro a b c first second
      simp only [decide_eq_true_eq] at first second ⊢
      exact String.le_trans first second
    · intro a b
      simpa using String.le_total a b
  have distinct : registry.names.Nodup :=
    (List.mergeSort_perm _ _).nodup_iff.mpr orderly.distinct
  apply (sorted.and distinct).imp
  intro a b both
  obtain ⟨below, differ⟩ := both
  rw [decide_eq_true_eq] at below
  by_cases less : a < b
  · exact less
  · exact absurd (String.le_antisymm below (String.not_lt.mp less)) differ

end Orderly

theorem mem_names_iff : name ∈ registry.names ↔ ∃ spec, registry.lookup name = some spec := by
  have bound : (∃ spec, registry.lookup name = some spec) ↔ registry.lookup name ≠ none :=
    Option.ne_none_iff_exists'.symm
  rw [bound, ne_eq, lookup_eq_none_iff, Classical.not_not]
  exact List.mem_mergeSort

theorem bind_builtins_eq (registry : Registry) : registry.bindBuiltins = .ok registry.withBuiltins := by
  unfold withBuiltins
  split
  · assumption
  · rename_i fault refused
    exact absurd registry.bind_builtins_ok (by simp [refused])

theorem bind_builtin_cases (registry : Registry) (named : isName spec.name = true) :
    (∃ existing, registry.lookup spec.name = some existing) ∧ registry.bindBuiltin spec = .ok registry ∨
      registry.lookup spec.name = none ∧
        registry.bindBuiltin spec = .ok ⟨registry.specs ++ [spec]⟩ := by
  unfold bindBuiltin contains
  cases found : registry.lookup spec.name with
  | some existing => exact .inl ⟨⟨existing, rfl⟩, rfl⟩
  | none =>
      rcases add_cases registry spec true with ⟨bound, -⟩ | ⟨-, malformed | ⟨-, other⟩ | ⟨_, taken⟩⟩
      · exact .inr ⟨rfl, bound⟩
      · rw [(is_name_eq_false_iff _).mpr malformed] at named
        cases named
      · cases other
      · cases found.symm.trans taken

/-- What was bound to the name of a built-in command before can only have been the same command. -/
theorem Orderly.bind_builtin (orderly : registry.Orderly) (named : isName spec.name = true)
    (own : spec = includeSpec ∨ spec = clearSpec) (bound : registry.bindBuiltin spec = .ok after) :
    after.Orderly ∧ registry.Keeps after ∧ after.lookup spec.name = some spec := by
  have distinct : includeSpec.name ≠ clearSpec.name := by decide
  rcases bind_builtin_cases registry named with ⟨⟨existing, found⟩, same⟩ | ⟨free, added⟩
  · cases same.symm.trans bound
    refine ⟨orderly, .refl registry, ?_⟩
    have called := name_of_lookup found
    have reserved : existing.name ∈ builtinNames := by
      rw [called]
      rcases own with rfl | rfl <;> decide
    rw [found]
    rcases orderly.reserved existing (List.mem_of_find?_eq_some found) reserved with rfl | rfl
    · rcases own with rfl | rfl
      · rfl
      · exact absurd called distinct
    · rcases own with rfl | rfl
      · exact absurd called.symm distinct
      · rfl
  · cases added.symm.trans bound
    refine ⟨orderly.append named free fun _ => own, ?_, lookup_append_self free⟩
    intro name other found
    exact lookup_append found spec

theorem Orderly.with_builtins (orderly : registry.Orderly) :
    registry.withBuiltins.Orderly ∧ registry.Keeps registry.withBuiltins ∧
      registry.withBuiltins.lookup "include" = some includeSpec ∧
      registry.withBuiltins.lookup "clear" = some clearSpec := by
  obtain ⟨first, included⟩ := registry.bind_builtin_ok include_named
  have bound := registry.bind_builtins_eq
  unfold bindBuiltins at bound
  rw [included] at bound
  obtain ⟨middle, kept, early⟩ := orderly.bind_builtin include_named (.inl rfl) included
  obtain ⟨last, still, late⟩ := middle.bind_builtin clear_named (.inr rfl) bound
  exact ⟨last, kept.trans still, still _ _ early, late⟩

end Registry

namespace Services

inductive Use where
  | add (spec : CommandSpec)
  | register (owner : String) (registration : Registration)
  | build (program : List Instruction) (file : String) (verbose : Bool) (tapeSize : Int)

def Use.attempt (services : Services) : Use → Except Fault Services
  | .add spec =>
    match services.commands.add spec false with
    | .ok commands => .ok { services with commands }
    | .error fault => .error (.extension fault)
  | .register owner registration => services.register owner registration
  | .build program file verbose tapeSize =>
    match Machine.create program file verbose tapeSize, services.commands.bindBuiltins with
    | .error fault, _ => .error (.value fault)
    | .ok _, .ok commands => .ok { services with commands }
    | .ok _, .error fault => .error (.extension fault)

/-- The services after one use and another. A use that fails has no effect. -/
def after (services : Services) : List Use → Services
  | [] => services
  | use :: rest =>
    match use.attempt services with
    | .ok next => next.after rest
    | .error _ => services.after rest

theorem after_append (services : Services) (front back : List Use) :
    services.after (front ++ back) = (services.after front).after back := by
  induction front generalizing services with
  | nil => rfl
  | cons use rest ih =>
      rw [List.cons_append, after, after]
      cases use.attempt services with
      | ok next => exact ih next
      | error fault => exact ih services

variable {services next : Services}

theorem add_of_register {owner name doc : String} {minArgs : Int} {maxArgs : Option Int}
    {script : List Action}
    (registered : services.register owner (.command name minArgs maxArgs doc script) = .ok next) :
    services.commands.add { name, handler := .script script, minArgs, maxArgs, origin := owner, doc }
      false = .ok next.commands := by
  dsimp only [register] at registered
  generalize services.commands.add _ false = added at registered ⊢
  cases added with
  | error fault => cases registered
  | ok commands =>
      cases registered
      rfl

theorem register_commands {owner : String} {registration : Registration}
    (registered : services.register owner registration = .ok next) :
    next.commands = services.commands ∨
      ∃ spec, services.commands.add spec false = .ok next.commands := by
  cases registration with
  | command name minArgs maxArgs doc script => exact .inr ⟨_, add_of_register registered⟩
  | listener event script =>
      left
      dsimp only [register] at registered
      split at registered
      · cases registered
        rfl
      · cases registered
  | fail fault => cases registered

theorem Use.attempt_build (services : Services) (program : List Instruction) (file : String)
    (verbose : Bool) {tapeSize : Int} (positive : 1 ≤ tapeSize) :
    (Use.build program file verbose tapeSize).attempt services =
      .ok { services with commands := services.commands.withBuiltins } := by
  have enough : ¬tapeSize < 1 := by omega
  simp only [attempt, Machine.create, if_neg enough, Registry.bind_builtins_eq]

theorem Use.attempt_add {spec : CommandSpec} (done : (Use.add spec).attempt services = .ok next) :
    services.commands.add spec false = .ok next.commands := by
  dsimp only [attempt] at done
  cases added : services.commands.add spec false with
  | error fault =>
      rw [added] at done
      cases done
  | ok commands =>
      rw [added] at done
      cases done
      rfl

theorem Use.attempt_keeps {use : Use} (orderly : services.commands.Orderly)
    (done : use.attempt services = .ok next) :
    next.commands.Orderly ∧ services.commands.Keeps next.commands := by
  cases use with
  | add spec => exact orderly.add (attempt_add done)
  | register owner registration =>
      rcases register_commands done with same | ⟨spec, added⟩
      · rw [same]
        exact ⟨orderly, .refl _⟩
      · exact orderly.add added
  | build program file verbose tapeSize =>
      dsimp only [attempt] at done
      rw [Registry.bind_builtins_eq] at done
      cases created : Machine.create program file verbose tapeSize with
      | error fault =>
          rw [created] at done
          cases done
      | ok machine =>
          rw [created] at done
          cases done
          obtain ⟨still, kept, -⟩ := orderly.with_builtins
          exact ⟨still, kept⟩

theorem after_keeps (orderly : services.commands.Orderly) (history : List Use) :
    (services.after history).commands.Orderly ∧
      services.commands.Keeps (services.after history).commands := by
  induction history generalizing services with
  | nil => exact ⟨orderly, .refl _⟩
  | cons use rest ih =>
      rw [after]
      cases done : use.attempt services with
      | error fault => exact ih orderly
      | ok next =>
          obtain ⟨still, kept⟩ := Use.attempt_keeps orderly done
          obtain ⟨last, later⟩ := ih still
          exact ⟨last, kept.trans later⟩

theorem after_orderly (history : List Use) : (after {} history).commands.Orderly :=
  (after_keeps .empty history).1

end Services

theorem Run.register_error {owner : String} {registration : Registration} {world after : World}
    {fault : Fault} (failed : register owner registration world = .error fault after) :
    after = world := by
  have registers : Yields (register owner registration) world (fun _ _ => True)
      fun _ after => after = world := by
    unfold register
    simp only [yields_bind, yields_get, yields_lift]
    exact ⟨fun _ _ => trivial, fun _ _ => trivial⟩
  exact registers.of_error failed

theorem Run.perform_register_error {call : Call} {arguments : List String} {registration : Registration}
    {world after : World} {fault : Fault}
    (failed : performAll call arguments [.register registration] world = .error fault after) :
    after = world := by
  have begins : Scripting.performAll call [.register registration] =
      (Scripting.inWorld (register call.owner registration) >>= fun _ => pure () : Scripting Unit) := rfl
  rw [performAll, begins, bind_eq, Scripting.inWorld] at failed
  cases registers : register call.owner registration world with
  | ok _ middle =>
      rw [registers] at failed
      cases failed
  | error cause middle =>
      rw [registers] at failed
      cases failed
      exact register_error registers

/-- Whatever has been registered and built: a machine with a tape can be built, and once one was built the
built-in names are bound to the built-in commands; every bound name is well-formed and keeps its binding;
binding a command fails just when its name is malformed, built in or bound, and then changes nothing, and
else binds it to just that; and the names are listed in strictly increasing order. -/
theorem shared_bindings_never_change (history : List Services.Use) :
    (∀ (program : List Instruction) (file : String) (verbose : Bool) (tapeSize : Int), 1 ≤ tapeSize →
      (∃ machine, Machine.create program file verbose tapeSize = .ok machine) ∧
      (Services.Use.build program file verbose tapeSize).attempt (Services.after {} history) =
        .ok { Services.after {} history with
          commands := (Services.after {} history).commands.withBuiltins } ∧
      (.build program file verbose tapeSize ∈ history →
        (Services.after {} history).commands.lookup "include" = some Registry.includeSpec ∧
        (Services.after {} history).commands.lookup "clear" = some Registry.clearSpec)) ∧
    (∀ name spec, (Services.after {} history).commands.lookup name = some spec →
      spec.name = name ∧ ¬Registry.Malformed name ∧
      ∀ later, (Services.after {} (history ++ later)).commands.lookup name = some spec) ∧
    (∀ spec, (∃ fault, (Services.Use.add spec).attempt (Services.after {} history) = .error fault) ↔
      Registry.Malformed spec.name ∨ spec.name ∈ Registry.builtinNames ∨
        ∃ existing, (Services.after {} history).commands.lookup spec.name = some existing) ∧
    (∀ (call : Call) (arguments : List String) (registration : Registration) (world after : World)
        (fault : Fault),
      Run.performAll call arguments [.register registration] world = .error fault after →
        after = world) ∧
    (∀ spec next, (Services.Use.add spec).attempt (Services.after {} history) = .ok next →
      next.commands.lookup spec.name = some spec) ∧
    (∀ owner name minArgs maxArgs doc script next,
      (Services.Use.register owner (.command name minArgs maxArgs doc script)).attempt
        (Services.after {} history) = .ok next →
      next.commands.lookup name =
        some { name, handler := .script script, minArgs, maxArgs, origin := owner, doc }) ∧
    (Services.after {} history).commands.names.Pairwise (· < ·) ∧
    ∀ name, name ∈ (Services.after {} history).commands.names ↔
      ∃ spec, (Services.after {} history).commands.lookup name = some spec := by
  have orderly := Services.after_orderly history
  refine ⟨?_, ?_, ?_, ?_, ?_, ?_, orderly.names_increase, fun name => Registry.mem_names_iff⟩
  · intro program file verbose tapeSize positive
    have enough : ¬tapeSize < 1 := by omega
    refine ⟨⟨_, if_neg enough⟩, Services.Use.attempt_build _ program file verbose positive, ?_⟩
    intro built
    obtain ⟨front, back, rfl⟩ := List.append_of_mem built
    -- the machine bound the names, and what came later kept them
    obtain ⟨still, -, included, cleared⟩ := (Services.after_orderly front).with_builtins
    let bound : Services :=
      { Services.after {} front with commands := (Services.after {} front).commands.withBuiltins }
    have kept : bound.commands.Keeps (bound.after back).commands := (Services.after_keeps still back).2
    rw [Services.after_append, Services.after,
      Services.Use.attempt_build _ program file verbose positive]
    exact ⟨kept _ _ included, kept _ _ cleared⟩
  · intro name spec found
    refine ⟨Registry.name_of_lookup found, orderly.not_malformed found, ?_⟩
    intro later
    rw [Services.after_append]
    exact (Services.after_keeps orderly later).2 name spec found
  · intro spec
    dsimp only [Services.Use.attempt]
    rcases Registry.add_cases (Services.after {} history).commands spec false with
      ⟨bound, named, own, free⟩ | ⟨⟨fault, refused⟩, why⟩
    · rw [bound]
      refine ⟨by simp, ?_⟩
      rintro (malformed | reserved | ⟨existing, taken⟩)
      · rw [(Registry.is_name_eq_false_iff _).mpr malformed] at named
        cases named
      · cases own reserved
      · cases free.symm.trans taken
    · rw [refused]
      refine ⟨fun _ => ?_, fun _ => ⟨_, rfl⟩⟩
      rcases why with malformed | ⟨reserved, -⟩ | taken
      · exact .inl malformed
      · exact .inr (.inl reserved)
      · exact .inr (.inr taken)
  · intro call arguments registration world after fault failed
    exact Run.perform_register_error failed
  · intro spec next done
    exact Registry.lookup_of_add (Services.Use.attempt_add done)
  · intro owner name minArgs maxArgs doc script next done
    exact Registry.lookup_of_add (Services.add_of_register done)

/-- A name that was refused to an extension is bound by the machine that is built next. -/
theorem machine_binds_refused_name :
    ∃ history : List Services.Use,
      history = [.add { name := "include", handler := .script [] },
        .register "x" (.command "loud" 0 none "" []), .build [] "" false 1] ∧
      (Services.after {} history).commands.specs.map (·.name) = ["loud", "include", "clear"] ∧
      (Services.after {} history).commands.lookup "include" = some Registry.includeSpec := by
  refine ⟨_, rfl, by decide +kernel, ?_⟩
  exact (((shared_bindings_never_change _).1 [] "" false 1 (by decide)).2.2 (by simp)).1

end TapeLang
