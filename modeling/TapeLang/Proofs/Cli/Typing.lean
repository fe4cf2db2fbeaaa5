import TapeLang.Proofs.Cli.Survival
import TapeLang.Proofs.Machine.Consumption
import TapeLang.Proofs.Program.Balance

/-!
What becomes of the typed lines. The prompt loop and the programs that it runs share one keyboard: a turn
takes a line of source, and the reads of its program take lines of input behind it. On a host with the
built-in commands every line that is taken has one of the two uses, the bytes of the input lines are read in
order, and the session keeps the source lines whose brackets balance.
-/

namespace TapeLang

theorem Session.settle_source (session : Session) (ended : Ended) :
    (session.settle ended).world.source = ended.world.source := by
  unfold settle
  cases ended.fault with
  | none => rfl
  | some fault =>
      dsimp only [file]
      cases fault.ofProgram <;> cases FailureReport.isWrapped ended.verdict <;> rfl

theorem Session.settle_inputs (session : Session) (ended : Ended) :
    (session.settle ended).session.inputs = session.inputs := by
  unfold settle
  cases ended.fault <;> rfl

namespace Cli

instance (line : String) : Decidable (IsSource line) :=
  decidable_of_iff (Text.strip line ≠ "" ∧ Text.strip line ≠ "exit")
    ⟨fun holds => ⟨holds.1, holds.2⟩, fun source => ⟨source.some, source.stays⟩⟩

/-- The session keeps the line: it is source, and its brackets balance. -/
def IsKept (line : String) : Prop := IsSource line ∧ Brackets.Balanced .command (Text.encode line)

instance (line : String) : Decidable (IsKept line) :=
  inferInstanceAs (Decidable (IsSource line ∧ Brackets.Balanced .command (Text.encode line)))

inductive Use where
  | source (line : String)
  | input (line : String)

namespace Use

def line : Use → String
  | source line => line
  | input line => line

def source? : Use → Option String
  | source line => some line
  | input _ => none

def input? : Use → Option String
  | source _ => none
  | input line => some line

theorem map_line_input (lines : List String) : (lines.map input).map line = lines := by
  rw [List.map_map]
  exact List.map_id lines

theorem filter_map_source_input (lines : List String) : (lines.map input).filterMap source? = [] := by
  rw [List.filterMap_map]
  exact List.filterMap_eq_nil_iff.mpr fun _ _ => rfl

theorem filter_map_input_input (lines : List String) : (lines.map input).filterMap input? = lines := by
  rw [List.filterMap_map]
  exact List.filterMap_some

end Use

namespace Prompt

def entered (prompt : Prompt) (fragment : List Instruction) : World :=
  prompt.session.entering fragment { prompt.world with source := .typed prompt.keyboard }

/-- The lines of input that a turn takes behind its line, and the keyboard that it leaves: none, unless the
line is run, and then those that the steps of the run take. -/
inductive Spends (prompt : Prompt) (line : String) : List String → Keyboard → Prop where
  | idle {keyboard : Keyboard} (typed : prompt.keyboard.lines = line :: keyboard.lines) :
      Spends prompt line [] keyboard
  | ran {lines used : List String} {fragment : List Instruction} {finished : World} {keyboard : Keyboard}
      (typed : prompt.keyboard.lines = line :: lines)
      (accepted : parse (Text.encode line) Session.lineFile .command = .ok fragment)
      (consumes : Run.Consumes (((prompt.took lines).entered fragment).attach (.tee #[] (some {}))) used
        finished)
      (left : finished.source = .typed keyboard) : Spends prompt line used keyboard

inductive Typing (fuel : Nat) (verbose : Bool) : Prompt → List Use → Prompt → Prop where
  | here {prompt : Prompt} : Typing fuel verbose prompt [] prompt
  | turn {prompt next last : Prompt} {line : String} {report : Option Fault} {used : List String}
      {uses : List Use} (turn : Turn fuel verbose prompt line report next)
      (spends : prompt.Spends line used next.keyboard) (rest : Typing fuel verbose next uses last) :
      Typing fuel verbose prompt (.source line :: (used.map .input ++ uses)) last

theorem Spends.lines {prompt : Prompt} {line : String} {used : List String} {keyboard : Keyboard}
    (spends : prompt.Spends line used keyboard) :
    prompt.keyboard.lines = line :: (used ++ keyboard.lines) := by
  cases spends with
  | idle typed => exact typed
  | @ran lines _ fragment finished _ typed accepted consumes left =>
      have begins : ((prompt.took lines).entered fragment).source.lines = lines := by
        rw [entered, Session.entering, FailureReport.release_source]
        rfl
      have behind := consumes.lines
      rw [World.attach, begins, left] at behind
      rw [typed, behind]
      rfl

section Turns

variable {fuel : Nat} {verbose : Bool} {prompt next : Prompt} {line : String} {lines used : List String}
  {report : Option Fault} {fed : Fed}

theorem entered_builtin (builtin : prompt.world.host.services.Builtin) (lines : List String)
    (fragment : List Instruction) : ((prompt.took lines).entered fragment).host.services.Builtin := by
  rw [entered, Session.entering, (FailureReport.release_keeps _ _).2.2]
  exact builtin

theorem feed_builtin (builtin : prompt.world.host.services.Builtin)
    (feeds : (prompt.took lines).feed fuel line = some fed) : fed.world.host.services.Builtin := by
  cases parsed : parse (Text.encode line) Session.lineFile .command with
  | error cause =>
      rw [(Session.feed_of_refused parsed feeds).2.2]
      exact builtin
  | ok fragment =>
      obtain ⟨left, ended, ran, rfl⟩ := Session.feed_of_accepted parsed feeds
      rw [(Session.settle_keeps _ ended).2.1]
      have begins := entered_builtin builtin lines fragment
      exact (Run.run_later begins ran).builtin begins

theorem feed_spends (builtin : prompt.world.host.services.Builtin)
    (typed : prompt.keyboard.lines = line :: lines)
    (feeds : (prompt.took lines).feed fuel line = some fed) :
    ∃ used, prompt.Spends line used ((prompt.took lines).afterFeed fed).keyboard := by
  obtain ⟨-, source, -⟩ := takes_feed typed feeds
  cases parsed : parse (Text.encode line) Session.lineFile .command with
  | error cause =>
      rw [(Session.feed_of_refused parsed feeds).2.2] at source
      have same : (prompt.took lines).keyboard = ((prompt.took lines).afterFeed fed).keyboard :=
        Source.typed.inj source
      rw [← same]
      exact ⟨[], .idle typed⟩
  | ok fragment =>
      obtain ⟨left, ended, ran, rfl⟩ := Session.feed_of_accepted parsed feeds
      rw [Session.settle_source] at source
      obtain ⟨used, finished, consumes, same⟩ :=
        Run.run_consumes (entered_builtin builtin lines fragment) ran
      exact ⟨used, .ran typed parsed consumes (same ▸ source)⟩

theorem Turn.spends (builtin : prompt.world.host.services.Builtin)
    (turn : Turn fuel verbose prompt line report next) :
    ∃ used, prompt.Spends line used next.keyboard := by
  cases turn with
  | blank typed blank => exact ⟨[], .idle typed⟩
  | done typed source feeds succeeds =>
      rw [(after_line_keeps _ _).2.1]
      exact feed_spends builtin typed feeds
  | refused typed source feeds fails => exact feed_spends builtin typed feeds
  | failed typed source feeds fails => exact feed_spends builtin typed feeds

theorem Turn.builtin (builtin : prompt.world.host.services.Builtin)
    (turn : Turn fuel verbose prompt line report next) : next.world.host.services.Builtin := by
  cases turn with
  | blank typed blank => exact builtin
  | done typed source feeds succeeds =>
      rw [(after_line_keeps _ _).2.2.1]
      exact feed_builtin builtin feeds
  | refused typed source feeds fails => exact feed_builtin builtin feeds
  | failed typed source feeds fails => exact feed_builtin builtin feeds

/-- The lines that a turn takes are those that its reads take, so no byte of theirs is lost. -/
theorem Turn.takes_of_spends (turn : Turn fuel verbose prompt line report next)
    (spends : prompt.Spends line used next.keyboard) : prompt.Takes line used next := by
  obtain ⟨taken, takes⟩ := turn.takes
  have same : line :: (taken ++ next.keyboard.lines) = line :: (used ++ next.keyboard.lines) :=
    takes.lines.symm.trans spends.lines
  rw [List.append_cancel_right (List.cons.inj same).2] at takes
  exact takes

theorem Turn.stays (turn : Turn fuel verbose prompt line report next) : Text.strip line ≠ "exit" := by
  cases turn with
  | blank typed blank =>
      rw [blank]
      decide
  | done typed source feeds succeeds => exact source.stays
  | refused typed source feeds fails => exact source.stays
  | failed typed source feeds fails => exact source.stays

theorem feed_inputs (source : IsSource line) (feeds : (prompt.took lines).feed fuel line = some fed) :
    fed.session.inputs.toList = prompt.session.inputs.toList ++ [line].filter IsKept := by
  cases parsed : parse (Text.encode line) Session.lineFile .command with
  | error cause =>
      have dropped : ¬IsKept line := fun kept => Brackets.not_balanced_of_refused parsed kept.2
      rw [(Session.feed_of_refused parsed feeds).2.1, List.filter_singleton]
      simp [dropped, took, onHost]
  | ok fragment =>
      have kept : IsKept line := ⟨source, Brackets.balanced_of_accepted parsed⟩
      obtain ⟨left, ended, ran, rfl⟩ := Session.feed_of_accepted parsed feeds
      rw [Session.settle_inputs, List.filter_singleton]
      simp [kept, took, onHost]

theorem Turn.inputs (turn : Turn fuel verbose prompt line report next) :
    next.session.inputs.toList = prompt.session.inputs.toList ++ [line].filter IsKept := by
  cases turn with
  | blank typed blank =>
      have dropped : ¬IsKept line := fun kept => kept.1.some blank
      rw [List.filter_singleton]
      simp [dropped, took, onHost]
  | done typed source feeds succeeds =>
      rw [(after_line_keeps _ _).1]
      exact feed_inputs source feeds
  | refused typed source feeds fails => exact feed_inputs source feeds
  | failed typed source feeds fails => exact feed_inputs source feeds

end Turns

section Run

variable {fuel : Nat} {verbose : Bool} {prompt last : Prompt} {uses : List Use}

theorem Typing.lines (typing : Typing fuel verbose prompt uses last) :
    prompt.keyboard.lines = uses.map Use.line ++ last.keyboard.lines := by
  induction typing with
  | here => rfl
  | turn turn spends rest ih =>
      rw [spends.lines, ih, List.map_cons, List.map_append, Use.map_line_input, List.cons_append,
        List.append_assoc]
      rfl

theorem Typing.bytes (typing : Typing fuel verbose prompt uses last) :
    last.world.host.reads ++ last.keyboard.pending =
      prompt.world.host.reads ++ prompt.keyboard.pending ++
        (uses.filterMap Use.input?).flatMap Keyboard.bytesOf := by
  induction typing with
  | here => exact (List.append_nil _).symm
  | @turn prompt next last line report used uses turn spends rest ih =>
      have inputs : (Use.source line :: (used.map .input ++ uses)).filterMap Use.input? =
          used ++ uses.filterMap Use.input? := by
        rw [List.filterMap_cons_none rfl, List.filterMap_append, Use.filter_map_input_input]
      rw [ih, (turn.takes_of_spends spends).bytes, inputs, List.flatMap_append, List.append_assoc]

theorem Typing.inputs (typing : Typing fuel verbose prompt uses last) :
    last.session.inputs.toList =
      prompt.session.inputs.toList ++ (uses.filterMap Use.source?).filter IsKept := by
  induction typing with
  | here => exact (List.append_nil _).symm
  | @turn prompt next last line report used uses turn spends rest ih =>
      have sources : (Use.source line :: (used.map .input ++ uses)).filterMap Use.source? =
          [line] ++ uses.filterMap Use.source? := by
        change line :: (used.map Use.input ++ uses).filterMap Use.source? = _
        rw [List.filterMap_append, Use.filter_map_source_input]
        rfl
      rw [ih, turn.inputs, sources, List.filter_append, List.append_assoc]

theorem Typing.stays (typing : Typing fuel verbose prompt uses last) :
    ∀ line, .source line ∈ uses → Text.strip line ≠ "exit" := by
  induction typing with
  | here => exact nofun
  | turn turn spends rest ih =>
      intro line found
      rcases List.mem_cons.mp found with same | found
      · cases same
        exact turn.stays
      · rcases List.mem_append.mp found with found | found
        · obtain ⟨input, -, other⟩ := List.mem_map.mp found
          cases other
        · exact ih line found

theorem Typing.path (typing : Typing fuel verbose prompt uses last) :
    ∃ turns, Path fuel verbose prompt turns last := by
  induction typing with
  | here => exact ⟨[], .here⟩
  | turn turn spends rest ih =>
      obtain ⟨turns, path⟩ := ih
      exact ⟨_, .turn turn path⟩

theorem Path.typing {turns : List (String × Option Fault)} (path : Path fuel verbose prompt turns last)
    (builtin : prompt.world.host.services.Builtin) :
    ∃ uses, Typing fuel verbose prompt uses last ∧ last.world.host.services.Builtin := by
  induction path with
  | here => exact ⟨[], .here, builtin⟩
  | turn turn rest ih =>
      obtain ⟨used, spends⟩ := turn.spends builtin
      obtain ⟨uses, typing, still⟩ := ih (turn.builtin builtin)
      exact ⟨_, .turn turn spends typing, still⟩

end Run

end Prompt

theorem Outcome.Escapes.not_builtin {outcome : Outcome} {fault : Fault} (escapes : outcome.Escapes fault) :
    ¬outcome.host.services.Builtin := by
  intro builtin
  have calm : ∀ listener ∈ outcome.host.services.listeners, listener.Calm := by
    rw [builtin.silent]
    exact nofun
  obtain ⟨spec, bound, raises⟩ := escapes.raised calm
  rw [builtin.specs] at bound
  have ours : spec = Registry.includeSpec ∨ spec = Registry.clearSpec := by simpa using bound
  exact Run.not_raises_bare_of_builtin ours escapes.bare raises

namespace Prompt

theorem Stops.builtin {fuel : Nat} {prompt : Prompt} {outcome : Outcome} (stops : Stops fuel prompt outcome)
    (builtin : prompt.world.host.services.Builtin) : outcome.host.services.Builtin := by
  cases stops with
  | ended typed => exact builtin
  | left typed exits => exact builtin
  | escaped typed source feeds fails foreign unexpected => exact feed_builtin builtin feeds

theorem Stops.leaves {fuel : Nat} {prompt : Prompt} {outcome : Outcome} (stops : Stops fuel prompt outcome)
    (builtin : prompt.world.host.services.Builtin) :
    outcome.ending = .returned 0 ∧ outcome.host.reads = prompt.world.host.reads ∧
      (prompt.keyboard.lines = [] ∨
        ∃ line rest, prompt.keyboard.lines = line :: rest ∧ Text.strip line = "exit") := by
  have returns : outcome.ending = .returned 0 := by
    apply stops.returns_or_escapes.resolve_right
    rintro ⟨fault, escapes⟩
    exact escapes.not_builtin (stops.builtin builtin)
  cases stops with
  | ended typed => exact ⟨returns, (reads_shown _ _).trans (reads_shown _ _), .inl typed⟩
  | left typed exits => exact ⟨returns, reads_shown _ _, .inr ⟨_, _, typed, exits⟩⟩
  | escaped typed source feeds fails foreign unexpected => cases returns

theorem opening_builtin (verbose : Bool) (files : FileSystem) (typed : List String) :
    (opening verbose { files } typed).world.host.services.Builtin :=
  Host.bind_builtins_builtin _ rfl

/-- Without extensions, the loop comes to an outcome unless the run of a line does not end. Then every typed
line that it has taken was used once, in order, as source at the prompt or as input by a read that had
nothing pending. The bytes that were read, with those still pending behind them, are those of the input
lines; the session has kept the source lines whose brackets balance; and only the word that ends the loop, or
the end of the lines, has ended it. -/
theorem typed_lines_used_once (fuel : Nat) (verbose : Bool) (files : FileSystem) (typed : List String) :
    (start fuel verbose { files } typed = none ↔
      ∃ uses last, Typing fuel verbose (opening verbose { files } typed) uses last ∧
        Starves fuel last) ∧
    ∀ outcome, start fuel verbose { files } typed = some outcome →
      ∃ uses last, Typing fuel verbose (opening verbose { files } typed) uses last ∧
        Stops fuel last outcome ∧ outcome.ending = .returned 0 ∧
        (typed = uses.map Use.line ∨
          ∃ line rest, typed = uses.map Use.line ++ line :: rest ∧ Text.strip line = "exit") ∧
        (∀ line, .source line ∈ uses → Text.strip line ≠ "exit") ∧
        outcome.host.reads ++ last.keyboard.pending =
          (uses.filterMap Use.input?).flatMap Keyboard.bytesOf ∧
        last.session.inputs.toList = (uses.filterMap Use.source?).filter IsKept := by
  have builtin := opening_builtin verbose files typed
  constructor
  · rw [start_eq_none_iff]
    constructor
    · rintro ⟨turns, last, path, starves⟩
      obtain ⟨uses, typing, -⟩ := path.typing builtin
      exact ⟨uses, last, typing, starves⟩
    · rintro ⟨uses, last, typing, starves⟩
      obtain ⟨turns, path⟩ := typing.path
      exact ⟨turns, last, path, starves⟩
  · intro outcome ends
    obtain ⟨turns, last, path, stops⟩ := start_eq_some_iff.mp ends
    obtain ⟨uses, typing, still⟩ := path.typing builtin
    obtain ⟨returns, reads, leaves⟩ := stops.leaves still
    have lines : typed = uses.map Use.line ++ last.keyboard.lines := typing.lines
    have bytes := typing.bytes
    refine ⟨uses, last, typing, stops, returns, ?_, typing.stays, ?_, typing.inputs⟩
    · rcases leaves with none | ⟨line, rest, behind, exits⟩
      · rw [none, List.append_nil] at lines
        exact .inl lines
      · rw [behind] at lines
        exact .inr ⟨line, rest, lines, exits⟩
    · rw [reads, bytes]
      rfl

/-- The input line `exit` is spread over three source lines, one of which fails, with a line that cannot be
parsed between them; behind a blank line the loop is left. -/
theorem input_line_spread_over_sources :
    ∃ (files : FileSystem) (outcome : Outcome) (uses : List Use) (last : Prompt),
      start 9 false { files } [",", "exit", "]", ",#x;", ",", "", " exit ", "."] = some outcome ∧
      outcome.host.reads = Text.encode "exi" ∧ outcome.host.diagnostics.size = 2 ∧
      Typing 9 false (opening false { files } [",", "exit", "]", ",#x;", ",", "", " exit ", "."]) uses last ∧
      Stops 9 last outcome ∧ outcome.ending = .returned 0 ∧
      ([",", "exit", "]", ",#x;", ",", "", " exit ", "."] = uses.map Use.line ∨
        ∃ line rest, [",", "exit", "]", ",#x;", ",", "", " exit ", "."] = uses.map Use.line ++ line :: rest ∧
          Text.strip line = "exit") ∧
      (∀ line, .source line ∈ uses → Text.strip line ≠ "exit") ∧
      outcome.host.reads ++ last.keyboard.pending =
        (uses.filterMap Use.input?).flatMap Keyboard.bytesOf ∧
      last.session.inputs.toList = (uses.filterMap Use.source?).filter IsKept := by
  let typed := [",", "exit", "]", ",#x;", ",", "", " exit ", "."]
  obtain ⟨-, ends⟩ := typed_lines_used_once 9 false .vacant typed
  have shown : (start 9 false { files := .vacant } typed).map
      (fun outcome => (outcome.host.reads, outcome.host.diagnostics.size)) =
      some (Text.encode "exi", 2) := by
    decide +kernel
  obtain ⟨outcome, started, seen⟩ := Option.map_eq_some_iff.mp shown
  simp only [Prod.mk.injEq] at seen
  obtain ⟨uses, last, used⟩ := ends outcome started
  exact ⟨_, outcome, uses, last, started, seen.1, seen.2, used⟩

end Prompt

end Cli

end TapeLang
