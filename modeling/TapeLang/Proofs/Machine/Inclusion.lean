import TapeLang.Proofs.Machine.Resumption

/-!
Including files. The files that open are relocated twice on their way into the program, once among
themselves and once behind the program, and this comes to appending one after the other. Nothing is appended
when one of them cannot be parsed; only what was noted on the way to it stays.
-/

namespace TapeLang

namespace FileSystem

def refusal? (files : FileSystem) (path : String) : Option FileFault :=
  match files.read path with
  | .error (.file fault) => some fault
  | _ => none

def fragment? (files : FileSystem) (path : String) : Option (List Instruction) :=
  match files.read path with
  | .ok source => (parse source path .normal).toOption
  | .error _ => none

def Parses (files : FileSystem) (path : String) : Prop :=
  ∀ source, files.read path = .ok source → ∃ fragment, parse source path .normal = .ok fragment

def warning? (files : FileSystem) (path : String) : Option String :=
  (files.refusal? path).map fun fault =>
    "Warning: skipping include '" ++ path ++ "': " ++ fault.message

def includeReport (files : FileSystem) (ip pointer : Int) (path : String) : StepLog.Report UInt8 where
  ip := some ip
  pointer
  record :=
    match files.refusal? path with
    | none => [("rule", .str "INCLUDE"), ("path", .str path)]
    | some fault =>
      [("rule", .str "INCLUDE_SKIPPED"), ("path", .str path), ("reason", .str fault.message)]

def refused (files : FileSystem) (paths : List String) : List String :=
  paths.filter fun path => (files.refusal? path).isSome

theorem read_cases (files : FileSystem) {path : String} (noNul : '\x00' ∉ path.toList) :
    (∃ source, files.read path = .ok source) ∨ ∃ fault, files.read path = .error (.file fault) := by
  cases opened : files.read path with
  | ok source => exact .inl ⟨source, rfl⟩
  | error fault =>
      rcases Run.read_error opened with ⟨reason, rfl⟩ | ⟨nul, -⟩
      · exact .inr ⟨reason, rfl⟩
      · exact absurd (List.contains_iff_mem.mp nul) noNul

end FileSystem

/-- The world once the paths have been looked at: each one is logged, and those at which no file opens are
skipped with a warning. -/
def World.looked (world : World) (paths : List String) : World :=
  { world with
    machine := { world.machine with
      skipped := world.machine.skipped ++ (world.host.files.refused paths).toArray
      log := world.machine.log.recordAll
        (paths.map (world.host.files.includeReport world.machine.ip world.machine.pointer)) }
    host := { world.host with
      diagnostics := world.host.diagnostics ++ (paths.filterMap world.host.files.warning?).toArray } }

namespace World

theorem looked_nil (world : World) : world.looked [] = world := by
  simp [looked, FileSystem.refused, StepLog.recordAll]

theorem looked_looked (world : World) (front back : List String) :
    (world.looked front).looked back = world.looked (front ++ back) := by
  simp [looked, FileSystem.refused]

theorem looked_opened {world : World} {path : String}
    (opened : world.host.files.refusal? path = none) :
    world.looked [path] =
      { world with machine := world.machine.logEvent "INCLUDE" [("path", .str path)] } := by
  simp [looked, FileSystem.refused, FileSystem.warning?, FileSystem.includeReport, opened,
    StepLog.recordAll, Machine.logEvent, Machine.logReport]

theorem looked_refused {world : World} {path : String} {fault : FileFault}
    (refused : world.host.files.refusal? path = some fault) :
    Run.skipFile path fault world = .ok () (world.looked [path]) := by
  have noted : Run.skipFile path fault world = .ok ()
      { world with
        machine := Machine.logEvent { world.machine with skipped := world.machine.skipped.push path }
          "INCLUDE_SKIPPED" [("path", .str path), ("reason", .str fault.message)]
        host := { world.host with
          diagnostics := world.host.diagnostics.push
            ("Warning: skipping include '" ++ path ++ "': " ++ fault.message) } } := rfl
  rw [noted]
  simp [looked, FileSystem.refused, FileSystem.warning?, FileSystem.includeReport, refused,
    StepLog.recordAll, Machine.logEvent, Machine.logReport]

end World

/-- Fragments one behind the other, each relocated to where it stands among them. -/
def joined (loaded : List Instruction) : List (List Instruction) → List Instruction
  | [] => loaded
  | fragment :: rest => joined (loaded ++ relocate loaded.length fragment) rest

namespace Machine

/-- Relocating a fragment behind what is loaded, and that behind the program, is appending both. -/
theorem append_append (machine : Machine) (loaded fragment : List Instruction) :
    machine.append (loaded ++ relocate loaded.length fragment) =
      (machine.append loaded).append fragment := by
  unfold append
  simp [relocate_relocate, Int.add_comm]

theorem append_nil (machine : Machine) : machine.append [] = machine := by
  simp [append, relocate]

theorem append_joined (machine : Machine) (loaded : List Instruction)
    (fragments : List (List Instruction)) :
    machine.append (joined loaded fragments) = fragments.foldl append (machine.append loaded) := by
  induction fragments generalizing loaded with
  | nil => rfl
  | cons fragment rest ih =>
      rw [joined, ih, append_append]
      rfl

theorem foldl_append_frame (machine : Machine) (fragments : List (List Instruction)) :
    fragments.foldl append machine =
      { machine with program := (fragments.foldl append machine).program } := by
  induction fragments generalizing machine with
  | nil => rfl
  | cons fragment rest ih => exact ih (machine.append fragment)

theorem foldl_append_program {machine other : Machine} (same : machine.program = other.program)
    (fragments : List (List Instruction)) :
    (fragments.foldl append machine).program = (fragments.foldl append other).program := by
  induction fragments generalizing machine other with
  | nil => exact same
  | cons fragment rest ih =>
      apply ih
      unfold append
      rw [same]

end Machine

namespace Run

section Load

variable {world : World} {loaded : List Instruction} {path : String} {rest : List String}

theorem load_files_refused {fault : FileFault}
    (refused : world.host.files.read path = .error (.file fault)) :
    loadFiles loaded (path :: rest) world = loadFiles loaded rest (world.looked [path]) := by
  have refusal : world.host.files.refusal? path = some fault := by
    simp [FileSystem.refusal?, refused]
  have seen : (get : Run World) world = .ok world world := rfl
  rw [loadFiles, bind_eq, seen]
  dsimp only
  rw [refused]
  dsimp only
  rw [bind_eq, World.looked_refused refusal]

theorem load_files_raised {fault : ValueFault}
    (raised : world.host.files.read path = .error (.value fault)) :
    loadFiles loaded (path :: rest) world = .error (.value fault) world := by
  have seen : (get : Run World) world = .ok world world := rfl
  rw [loadFiles, bind_eq, seen]
  dsimp only
  rw [raised]
  rfl

theorem load_files_parsed {source : Bytes} {fragment : List Instruction}
    (opened : world.host.files.read path = .ok source)
    (parsed : parse source path .normal = .ok fragment) :
    loadFiles loaded (path :: rest) world =
      loadFiles (loaded ++ relocate loaded.length fragment) rest (world.looked [path]) := by
  have refusal : world.host.files.refusal? path = none := by
    simp [FileSystem.refusal?, opened]
  have seen : (get : Run World) world = .ok world world := rfl
  rw [loadFiles, bind_eq, seen]
  dsimp only
  rw [opened, World.looked_opened refusal]
  dsimp only
  rw [parsed]
  rfl

theorem load_files_unparsed {source : Bytes} {fault : SyntaxFault}
    (opened : world.host.files.read path = .ok source)
    (unparsed : parse source path .normal = .error fault) :
    loadFiles loaded (path :: rest) world = .error (.badSyntax fault) world := by
  have seen : (get : Run World) world = .ok world world := rfl
  rw [loadFiles, bind_eq, seen]
  dsimp only
  rw [opened]
  dsimp only
  rw [unparsed]
  rfl

end Load

/-- Files that can be parsed are loaded one behind the other, and then the rest is. -/
theorem load_files_front {front : List String} (noNul : ∀ path ∈ front, '\x00' ∉ path.toList)
    {world : World} (parses : ∀ path ∈ front, world.host.files.Parses path) (loaded : List Instruction)
    (back : List String) :
    loadFiles loaded (front ++ back) world =
      loadFiles (joined loaded (front.filterMap world.host.files.fragment?)) back
        (world.looked front) := by
  induction front generalizing world loaded with
  | nil => rw [World.looked_nil]; rfl
  | cons path rest ih =>
      have later (other : String) (found : other ∈ rest) : other ∈ path :: rest :=
        List.mem_cons_of_mem path found
      have goes (loaded : List Instruction) := @ih (fun other found => noNul other (later other found))
        (world.looked [path]) (fun other found => parses other (later other found)) loaded
      rw [World.looked_looked] at goes
      rw [List.cons_append]
      rcases world.host.files.read_cases (noNul path List.mem_cons_self) with
        ⟨source, opened⟩ | ⟨fault, refused⟩
      · obtain ⟨fragment, parsed⟩ := parses path List.mem_cons_self source opened
        have found : world.host.files.fragment? path = some fragment := by
          simp [FileSystem.fragment?, opened, parsed, Except.toOption]
        rw [load_files_parsed opened parsed, goes, List.filterMap_cons_some found]
        rfl
      · have absent : world.host.files.fragment? path = none := by
          simp [FileSystem.fragment?, refused]
        rw [load_files_refused refused, goes, List.filterMap_cons_none absent]
        rfl

theorem include_files_parsed {paths : List String} (noNul : ∀ path ∈ paths, '\x00' ∉ path.toList)
    {world : World} (parses : ∀ path ∈ paths, world.host.files.Parses path) :
    includeFiles paths world = .ok ()
      { world.looked paths with
        machine := { (world.looked paths).machine with
          program := ((paths.filterMap world.host.files.fragment?).foldl Machine.append
            world.machine).program } } := by
  let fragments := paths.filterMap world.host.files.fragment?
  have loads : loadFiles [] paths world = .ok (joined [] fragments) (world.looked paths) := by
    have goes := load_files_front noNul parses [] []
    rw [List.append_nil] at goes
    exact goes
  have appends : (world.looked paths).machine.append (joined [] fragments) =
      { (world.looked paths).machine with
        program := (fragments.foldl Machine.append world.machine).program } := by
    rw [Machine.append_joined, Machine.append_nil, Machine.foldl_append_frame]
    rw [Machine.foldl_append_program (show (world.looked paths).machine.program = world.machine.program
      from rfl)]
  rw [includeFiles, bind_eq, loads, ← appends]
  rfl

theorem include_files_stopped {front back : List String} {path : String} {source : Bytes}
    {fault : SyntaxFault} (noNul : ∀ path ∈ front, '\x00' ∉ path.toList) {world : World}
    (parses : ∀ path ∈ front, world.host.files.Parses path)
    (opened : world.host.files.read path = .ok source)
    (unparsed : parse source path .normal = .error fault) :
    includeFiles (front ++ path :: back) world = .error (.badSyntax fault) (world.looked front) := by
  have still : (world.looked front).host.files.read path = .ok source := opened
  rw [includeFiles, bind_eq, load_files_front noNul parses, load_files_unparsed still unparsed]

theorem command_eq_include_files {world : World} (silent : world.host.services.listeners = [])
    (bound : world.host.services.commands.lookup "include" = some Registry.includeSpec) {text : String}
    (named : commandName text = "include") (some : commandArguments text ≠ []) (ip : Int) :
    command text ip world = includeFiles (commandArguments text) world := by
  have accepted : Registry.includeSpec.accepts (commandArguments text).length = true := by
    have positive : (1 : Int) ≤ (commandArguments text).length :=
      Int.ofNat_le.mpr (List.length_pos_iff.mpr some)
    exact Bool.and_eq_true_iff.mpr ⟨decide_eq_true positive, rfl⟩
  have resolved : resolve world.host.services.commands text ip = .ok Registry.includeSpec := by
    have nonempty : ("include" : String).isEmpty = false := by decide
    simp [resolve, named, bound, accepted, nonempty]
  change EStateM.bind (lift .runtime (resolve world.host.services.commands text ip)) _ world = _
  unfold EStateM.bind
  rw [resolved]
  exact notify_around includeFiles _ _ silent (advances_include_files _)

end Run

theorem FileSystem.first_unparsed (files : FileSystem) (paths : List String) :
    (∀ path ∈ paths, files.Parses path) ∨
      ∃ front path back source fault, paths = front ++ path :: back ∧
        (∀ earlier ∈ front, files.Parses earlier) ∧ files.read path = .ok source ∧
        parse source path .normal = .error fault := by
  induction paths with
  | nil => exact .inl nofun
  | cons path rest ih =>
      by_cases parses : files.Parses path
      case neg =>
        right
        simp only [Parses, Classical.not_forall] at parses
        obtain ⟨source, opened, refused⟩ := parses
        cases parsed : parse source path .normal with
        | ok fragment => exact absurd ⟨fragment, parsed⟩ refused
        | error fault => exact ⟨[], path, rest, source, fault, rfl, nofun, opened, parsed⟩
      case pos =>
        rcases ih with all | ⟨front, later, back, source, fault, rfl, before, opened, unparsed⟩
        · exact .inl (List.forall_mem_cons.mpr ⟨parses, all⟩)
        · exact .inr ⟨path :: front, later, back, source, fault, rfl,
            List.forall_mem_cons.mpr ⟨parses, before⟩, opened, unparsed⟩

/-- Including files, of whose paths none has a NUL character in it. If all files that open can be parsed,
the program is that after appending each of them in order, and every path is noted: it is logged once, and
where no file opens it is skipped with a warning. Otherwise the first file that cannot be parsed decides the
fault, and nothing is changed but that the paths before it are noted. A machine on which nothing listens
executes the command in this way. -/
theorem include_appends_all_or_nothing {paths : List String}
    (noNul : ∀ path ∈ paths, '\x00' ∉ path.toList) (world : World) :
    ((∀ path ∈ paths, world.host.files.Parses path) →
      Run.includeFiles paths world = .ok ()
        { world with
          machine := { world.machine with
            program := ((paths.filterMap world.host.files.fragment?).foldl Machine.append
              world.machine).program
            skipped := world.machine.skipped ++ (world.host.files.refused paths).toArray
            log := world.machine.log.recordAll (paths.map
              (world.host.files.includeReport world.machine.ip world.machine.pointer)) }
          host := { world.host with
            diagnostics :=
              world.host.diagnostics ++ (paths.filterMap world.host.files.warning?).toArray } }) ∧
    (¬(∀ path ∈ paths, world.host.files.Parses path) →
      ∃ front path back source fault, paths = front ++ path :: back ∧
        (∀ earlier ∈ front, world.host.files.Parses earlier) ∧
        world.host.files.read path = .ok source ∧ parse source path .normal = .error fault ∧
        Run.includeFiles paths world = .error (.badSyntax fault)
          { world with
            machine := { world.machine with
              skipped := world.machine.skipped ++ (world.host.files.refused front).toArray
              log := world.machine.log.recordAll (front.map
                (world.host.files.includeReport world.machine.ip world.machine.pointer)) }
            host := { world.host with
              diagnostics :=
                world.host.diagnostics ++ (front.filterMap world.host.files.warning?).toArray } }) ∧
    ∀ text ip, commandName text = "include" → commandArguments text = paths → paths ≠ [] →
      world.host.services.listeners = [] →
      world.host.services.commands.lookup "include" = some Registry.includeSpec →
      Run.command text ip world = Run.includeFiles paths world := by
  refine ⟨fun parses => Run.include_files_parsed noNul parses, ?_, ?_⟩
  · intro unparsed
    rcases world.host.files.first_unparsed paths with
      all | ⟨front, path, back, source, fault, rfl, parses, opened, refused⟩
    · exact absurd all unparsed
    · have before (earlier : String) (found : earlier ∈ front) : '\x00' ∉ earlier.toList :=
        noNul earlier (List.mem_append_left _ found)
      exact ⟨front, path, back, source, fault, rfl, parses, opened, refused,
        Run.include_files_stopped before parses opened refused⟩
  · rintro text ip named rfl some silent bound
    exact Run.command_eq_include_files silent bound named some ip

def missingInclude : Setup where
  program := [.output]
  files := ⟨"/", fun path =>
    if path = "m" then .error (.missing path) else .ok (.bytes [91, 45, 93])⟩

/-- Two loops are included around a path at which there is no file: each jumps to where it stands, the second
one behind the first. -/
theorem loops_included_around_missing_file :
    ∃ (world after : World),
      world.machine.program = #[.output] ∧
      (∀ path ∈ ["a", "m", "b"], '\x00' ∉ path.toList ∧ world.host.files.Parses path) ∧
      Run.includeFiles ["a", "m", "b"] world = .ok () after ∧
      after.machine.program.toList =
        [.output, .loopStart (some 4), .counted .decrement 1, .loopEnd 1,
          .loopStart (some 7), .counted .decrement 1, .loopEnd 4] ∧
      after.machine.skipped = #["m"] := by
  have noNul : ∀ path ∈ ["a", "m", "b"], '\x00' ∉ path.toList := by decide
  have parsed : ∀ path ∈ ["a", "m", "b"], (parse [91, 45, 93] path .normal).toOption =
      some [.loopStart (some 3), .counted .decrement 1, .loopEnd 0] := by
    decide +kernel
  have parses (path : String) (named : path ∈ ["a", "m", "b"]) : missingInclude.files.Parses path := by
    have accepted := parse_eq_ok_of_some (parsed path named)
    intro read opened
    have same : read = [91, 45, 93] := by
      simp only [List.mem_cons, List.not_mem_nil, or_false] at named
      rcases named with rfl | rfl | rfl
      · exact (Except.ok.inj opened).symm
      · cases opened
      · exact (Except.ok.inj opened).symm
    rw [same]
    exact ⟨_, accepted⟩
  have included := (include_appends_all_or_nothing noNul missingInclude.world).1 parses
  exact ⟨_, _, rfl, fun path named => ⟨noNul path named, parses path named⟩, included,
    by decide +kernel, by decide +kernel⟩

end TapeLang
