import TapeLang.Cli.Prompt
import TapeLang.Proofs.Session.Keyboard

/-!
The prompt loop as a path of turns. A turn takes the next typed line: it passes over a blank one, and feeds
any other to the session. A line that fails is reported, and the next turn begins. The path ends at the word
that ends the loop, when no line is left, with a fault that nothing catches, or at a line whose run does not
end. Every turn takes a line, so the bound on the turns is never reached.
-/

namespace TapeLang.Cli

/-- The line is meant for the session: it is not blank, and not the word that ends the loop. -/
structure IsSource (line : String) : Prop where
  some : Text.strip line ≠ ""
  stays : Text.strip line ≠ "exit"

namespace Prompt

def took (prompt : Prompt) (lines : List String) : Prompt :=
  { prompt.onHost (shown · sourcePrompt) with keyboard := { prompt.keyboard with lines } }

def feed (prompt : Prompt) (fuel : Nat) (line : String) : Option Fed :=
  prompt.session.feed fuel line (some {}) { prompt.world with source := .typed prompt.keyboard }

/-- A turn that another one follows, with the line that it takes and the fault that it reports. -/
inductive Turn (fuel : Nat) (verbose : Bool) (prompt : Prompt) :
    String → Option Fault → Prompt → Prop where
  | blank {line : String} {lines : List String} (typed : prompt.keyboard.lines = line :: lines)
      (blank : Text.strip line = "") : Turn fuel verbose prompt line none (prompt.took lines)
  | done {line : String} {lines : List String} {fed : Fed} {written : Bytes}
      (typed : prompt.keyboard.lines = line :: lines) (source : IsSource line)
      (feeds : (prompt.took lines).feed fuel line = some fed) (succeeds : fed.outcome = .ok written) :
      Turn fuel verbose prompt line none (((prompt.took lines).afterFeed fed).afterLine written)
  | refused {line : String} {lines : List String} {fed : Fed} {cause : SyntaxFault}
      (typed : prompt.keyboard.lines = line :: lines) (source : IsSource line)
      (feeds : (prompt.took lines).feed fuel line = some fed)
      (fails : fed.outcome = .error (.badSyntax cause)) :
      Turn fuel verbose prompt line (some (.badSyntax cause))
        (((prompt.took lines).afterFeed fed).onHost (complain · ("ParseError: " ++ cause.message)))
  | failed {line : String} {lines : List String} {fed : Fed} {cause : RuntimeFault}
      (typed : prompt.keyboard.lines = line :: lines) (source : IsSource line)
      (feeds : (prompt.took lines).feed fuel line = some fed)
      (fails : fed.outcome = .error (.runtime cause)) :
      Turn fuel verbose prompt line (some (.runtime cause))
        (((prompt.took lines).afterFeed fed).onHost
          (complain · (Traceback.text fed.world.machine cause verbose)))

inductive Stops (fuel : Nat) (prompt : Prompt) : Outcome → Prop where
  | ended (typed : prompt.keyboard.lines = []) :
      Stops fuel prompt
        (((prompt.onHost (shown · sourcePrompt)).onHost (showLine · "")).outcome (.returned 0))
  | left {line : String} {lines : List String} (typed : prompt.keyboard.lines = line :: lines)
      (exits : Text.strip line = "exit") : Stops fuel prompt ((prompt.took lines).outcome (.returned 0))
  | escaped {line : String} {lines : List String} {fed : Fed} {fault : Fault}
      (typed : prompt.keyboard.lines = line :: lines) (source : IsSource line)
      (feeds : (prompt.took lines).feed fuel line = some fed) (fails : fed.outcome = .error fault)
      (foreign : ∀ cause, fault ≠ .badSyntax cause) (unexpected : ∀ cause, fault ≠ .runtime cause) :
      Stops fuel prompt (((prompt.took lines).afterFeed fed).outcome (.uncaught fault))

def Starves (fuel : Nat) (prompt : Prompt) : Prop :=
  ∃ line lines, prompt.keyboard.lines = line :: lines ∧ IsSource line ∧
    (prompt.took lines).feed fuel line = none

inductive Path (fuel : Nat) (verbose : Bool) : Prompt → List (String × Option Fault) → Prompt → Prop where
  | here {prompt : Prompt} : Path fuel verbose prompt [] prompt
  | turn {prompt next last : Prompt} {line : String} {report : Option Fault}
      {turns : List (String × Option Fault)} (turn : Turn fuel verbose prompt line report next)
      (rest : Path fuel verbose next turns last) :
      Path fuel verbose prompt ((line, report) :: turns) last

section Loop

variable {fuel : Nat} {verbose : Bool} {prompt : Prompt}

theorem loop_of_source {line : String} {lines : List String} (bound : Nat)
    (typed : prompt.keyboard.lines = line :: lines) (source : IsSource line) :
    loop fuel verbose (bound + 1) prompt =
      ((prompt.took lines).feed fuel line).bind fun fed =>
        match fed.outcome with
        | .ok written => loop fuel verbose bound (((prompt.took lines).afterFeed fed).afterLine written)
        | .error fault =>
          match ((prompt.took lines).afterFeed fed).afterFault verbose fault with
          | .ok next => loop fuel verbose bound next
          | .error fault => some (((prompt.took lines).afterFeed fed).outcome (.uncaught fault)) := by
  have asked : (prompt.onHost (shown · sourcePrompt)).keyboard.lines = line :: lines := typed
  rw [loop]
  dsimp only
  rw [asked]
  dsimp only
  rw [if_neg source.stays, if_neg (by simpa using source.some)]
  rfl

theorem loop_of_other {line : String} {lines : List String} (bound : Nat)
    (typed : prompt.keyboard.lines = line :: lines) (other : ¬IsSource line) :
    loop fuel verbose (bound + 1) prompt =
      if Text.strip line = "exit" then some ((prompt.took lines).outcome (.returned 0))
      else loop fuel verbose bound (prompt.took lines) := by
  have asked : (prompt.onHost (shown · sourcePrompt)).keyboard.lines = line :: lines := typed
  rw [loop]
  dsimp only
  rw [asked]
  dsimp only
  split
  case isTrue => rfl
  case isFalse stays =>
    have blank : Text.strip line = "" := by
      apply Decidable.byContradiction
      intro some
      exact other ⟨some, stays⟩
    rw [if_pos (by simpa using blank)]
    rfl

theorem Turn.loop_eq {line : String} {report : Option Fault} {next : Prompt}
    (turn : Turn fuel verbose prompt line report next) (bound : Nat) :
    loop fuel verbose (bound + 1) prompt = loop fuel verbose bound next := by
  cases turn with
  | blank typed blank =>
      rw [loop_of_other bound typed fun source => source.some blank, if_neg (by rw [blank]; decide)]
  | done typed source feeds succeeds =>
      rw [loop_of_source bound typed source, feeds, Option.bind_some, succeeds]
  | refused typed source feeds fails =>
      rw [loop_of_source bound typed source, feeds, Option.bind_some, fails]
      rfl
  | failed typed source feeds fails =>
      rw [loop_of_source bound typed source, feeds, Option.bind_some, fails]
      rfl

theorem Stops.loop_eq {outcome : Outcome} (stops : Stops fuel prompt outcome) (bound : Nat) :
    loop fuel verbose (bound + 1) prompt = some outcome := by
  cases stops with
  | ended typed =>
      have asked : (prompt.onHost (shown · sourcePrompt)).keyboard.lines = [] := typed
      rw [loop]
      dsimp only
      rw [asked]
  | left typed exits => rw [loop_of_other bound typed fun source => source.stays exits, if_pos exits]
  | @escaped line lines fed fault typed source feeds fails foreign unexpected =>
      rw [loop_of_source bound typed source, feeds, Option.bind_some, fails]
      cases fault with
      | badSyntax cause => exact absurd rfl (foreign cause)
      | runtime cause => exact absurd rfl (unexpected cause)
      | _ => rfl

theorem Starves.loop_eq (starves : Starves fuel prompt) (bound : Nat) :
    loop fuel verbose (bound + 1) prompt = none := by
  obtain ⟨line, lines, typed, source, starved⟩ := starves
  rw [loop_of_source bound typed source, starved]
  rfl

/-- From every prompt there is a turn, unless the loop stops or never gets to the next one. -/
theorem turn_or_stops (fuel : Nat) (verbose : Bool) (prompt : Prompt) :
    (∃ line report next, Turn fuel verbose prompt line report next) ∨
      (∃ outcome, Stops fuel prompt outcome) ∨ Starves fuel prompt := by
  cases typed : prompt.keyboard.lines with
  | nil => exact .inr (.inl ⟨_, .ended typed⟩)
  | cons line lines =>
      by_cases blank : Text.strip line = ""
      · exact .inl ⟨_, _, _, .blank typed blank⟩
      by_cases exits : Text.strip line = "exit"
      · exact .inr (.inl ⟨_, .left typed exits⟩)
      have source : IsSource line := ⟨blank, exits⟩
      cases feeds : (prompt.took lines).feed fuel line with
      | none => exact .inr (.inr ⟨line, lines, typed, source, feeds⟩)
      | some fed =>
          cases ended : fed.outcome with
          | ok written => exact .inl ⟨_, _, _, .done typed source feeds ended⟩
          | error fault =>
              by_cases refused : ∃ cause, fault = .badSyntax cause
              · obtain ⟨cause, rfl⟩ := refused
                exact .inl ⟨_, _, _, .refused typed source feeds ended⟩
              by_cases failed : ∃ cause, fault = .runtime cause
              · obtain ⟨cause, rfl⟩ := failed
                exact .inl ⟨_, _, _, .failed typed source feeds ended⟩
              exact .inr (.inl ⟨_, .escaped typed source feeds ended
                (fun cause same => refused ⟨cause, same⟩) fun cause same => failed ⟨cause, same⟩⟩)

end Loop

theorem reads_shown (host : Host) (text : String) : (shown host text).reads = host.reads := by
  simp [shown, Host.reads, StreamEvent.read?]

/-- A turn takes a line at the prompt, and its program takes some lines behind it; no byte of theirs is
lost. -/
structure Takes (prompt : Prompt) (line : String) (used : List String) (next : Prompt) : Prop where
  lines : prompt.keyboard.lines = line :: (used ++ next.keyboard.lines)
  bytes : next.world.host.reads ++ next.keyboard.pending =
    prompt.world.host.reads ++ prompt.keyboard.pending ++ used.flatMap Keyboard.bytesOf

section Takes

variable {fuel : Nat} {prompt : Prompt} {line : String} {lines : List String}

theorem Takes.shows {used : List String} {next last : Prompt} (takes : prompt.Takes line used next)
    (keyboard : last.keyboard = next.keyboard)
    (reads : last.world.host.reads = next.world.host.reads) : prompt.Takes line used last where
  lines := by rw [keyboard, takes.lines]
  bytes := by rw [keyboard, reads, takes.bytes]

theorem takes_took (typed : prompt.keyboard.lines = line :: lines) :
    prompt.Takes line [] (prompt.took lines) where
  lines := typed
  bytes := by
    have reads : (prompt.took lines).world.host.reads = prompt.world.host.reads := reads_shown _ _
    rw [reads]
    simp [took]

theorem takes_feed {fed : Fed} (typed : prompt.keyboard.lines = line :: lines)
    (feeds : (prompt.took lines).feed fuel line = some fed) :
    ∃ used, fed.world.source = .typed ((prompt.took lines).afterFeed fed).keyboard ∧
      prompt.Takes line used ((prompt.took lines).afterFeed fed) := by
  have begins : World.Draws (prompt.took lines).keyboard (prompt.took lines).world.host.reads
      { (prompt.took lines).world with source := .typed (prompt.took lines).keyboard } :=
    ⟨[], _, rfl, .refl _ _⟩
  obtain ⟨used, keyboard, source, drawn⟩ := begins.feed feeds
  have reads : (prompt.took lines).world.host.reads = prompt.world.host.reads := reads_shown _ _
  have same : ((prompt.took lines).afterFeed fed).keyboard = keyboard := by
    dsimp only [afterFeed]
    rw [source]
  refine ⟨used, same ▸ source, ?_, ?_⟩
  · rw [same, typed]
    exact congrArg (line :: ·) drawn.lines
  · rw [same, ← reads]
    exact drawn.bytes

theorem after_line_keeps (prompt : Prompt) (written : Bytes) :
    (prompt.afterLine written).session = prompt.session ∧
      (prompt.afterLine written).keyboard = prompt.keyboard ∧
      (prompt.afterLine written).world.host.services = prompt.world.host.services ∧
      (prompt.afterLine written).world.host.reads = prompt.world.host.reads := by
  unfold afterLine
  cases written.getLast? with
  | none => exact ⟨rfl, rfl, rfl, reads_shown _ _⟩
  | some byte =>
      dsimp only
      split
      · exact ⟨rfl, rfl, rfl, reads_shown _ _⟩
      · exact ⟨rfl, rfl, rfl, (reads_shown _ _).trans (reads_shown _ _)⟩

theorem Turn.takes {verbose : Bool} {report : Option Fault} {next : Prompt}
    (turn : Turn fuel verbose prompt line report next) : ∃ used, prompt.Takes line used next := by
  cases turn with
  | blank typed blank => exact ⟨[], takes_took typed⟩
  | done typed source feeds succeeds =>
      obtain ⟨used, -, takes⟩ := takes_feed typed feeds
      obtain ⟨-, keyboard, -, reads⟩ := after_line_keeps _ _
      exact ⟨used, takes.shows keyboard reads⟩
  | refused typed source feeds fails =>
      obtain ⟨used, -, takes⟩ := takes_feed typed feeds
      exact ⟨used, takes.shows rfl rfl⟩
  | failed typed source feeds fails =>
      obtain ⟨used, -, takes⟩ := takes_feed typed feeds
      exact ⟨used, takes.shows rfl rfl⟩

end Takes

section Run

variable {fuel : Nat} {verbose : Bool} {prompt last : Prompt} {turns : List (String × Option Fault)}

/-- A bound that is enough for the lines is enough for every turn on the way. -/
theorem Path.loop_eq (path : Path fuel verbose prompt turns last) {bound : Nat}
    (enough : prompt.keyboard.lines.length < bound) :
    ∃ rest, last.keyboard.lines.length < rest + 1 ∧
      loop fuel verbose bound prompt = loop fuel verbose (rest + 1) last := by
  induction path generalizing bound with
  | here =>
      obtain ⟨rest, rfl⟩ := Nat.exists_eq_add_one_of_ne_zero (Nat.ne_zero_of_lt enough)
      exact ⟨rest, enough, rfl⟩
  | turn turn rest ih =>
      obtain ⟨bound, rfl⟩ := Nat.exists_eq_add_one_of_ne_zero (Nat.ne_zero_of_lt enough)
      obtain ⟨used, takes⟩ := turn.takes
      rw [turn.loop_eq]
      apply ih
      rw [takes.lines, List.length_cons, List.length_append] at enough
      omega

theorem exists_path (fuel : Nat) (verbose : Bool) (prompt : Prompt) :
    ∃ turns last, Path fuel verbose prompt turns last ∧
      ((∃ outcome, Stops fuel last outcome) ∨ Starves fuel last) := by
  induction left : prompt.keyboard.lines.length using Nat.strongRecOn generalizing prompt with
  | ind size ih =>
      rcases turn_or_stops fuel verbose prompt with ⟨line, report, next, turn⟩ | stops
      · obtain ⟨used, takes⟩ := turn.takes
        have fewer : next.keyboard.lines.length < size := by
          rw [← left, takes.lines, List.length_cons, List.length_append]
          omega
        obtain ⟨turns, last, path, stops⟩ := ih _ fewer next rfl
        exact ⟨_, last, .turn turn path, stops⟩
      · exact ⟨[], prompt, .here, stops⟩

end Run

def opening (verbose : Bool) (host : Host) (typed : List String) : Prompt where
  world :=
    { machine :=
        { file := Session.lineFile
          verbose
          program := #[]
          tape := .blank 5
          log := Machine.seedLog }
      source := .typed { prompt := inputPrompt, lines := typed }
      host := (showLine host banner).bindBuiltins }
  keyboard := { prompt := inputPrompt, lines := typed }

section Start

variable {fuel : Nat} {verbose : Bool} {host : Host} {typed : List String}

theorem start_eq_loop :
    start fuel verbose host typed =
      loop fuel verbose (typed.length + 1) (opening verbose host typed) := rfl

/-- The loop comes to an outcome at the end of a path of turns. -/
theorem start_eq_some_iff {outcome : Outcome} :
    start fuel verbose host typed = some outcome ↔
      ∃ turns last, Path fuel verbose (opening verbose host typed) turns last ∧
        Stops fuel last outcome := by
  have enough : (opening verbose host typed).keyboard.lines.length < typed.length + 1 :=
    Nat.lt_succ_self _
  rw [start_eq_loop]
  constructor
  · intro ends
    obtain ⟨turns, last, path, stops⟩ := exists_path fuel verbose (opening verbose host typed)
    obtain ⟨rest, -, same⟩ := path.loop_eq enough
    rcases stops with ⟨other, stops⟩ | starves
    · rw [same, stops.loop_eq rest] at ends
      cases ends
      exact ⟨turns, last, path, stops⟩
    · rw [same, starves.loop_eq rest] at ends
      cases ends
  · rintro ⟨turns, last, path, stops⟩
    obtain ⟨rest, -, same⟩ := path.loop_eq enough
    rw [same, stops.loop_eq rest]

theorem start_eq_none_iff :
    start fuel verbose host typed = none ↔
      ∃ turns last, Path fuel verbose (opening verbose host typed) turns last ∧ Starves fuel last := by
  have enough : (opening verbose host typed).keyboard.lines.length < typed.length + 1 :=
    Nat.lt_succ_self _
  constructor
  · intro starved
    obtain ⟨turns, last, path, ⟨outcome, stops⟩ | starves⟩ :=
      exists_path fuel verbose (opening verbose host typed)
    · cases starved.symm.trans (start_eq_some_iff.mpr ⟨turns, last, path, stops⟩)
    · exact ⟨turns, last, path, starves⟩
  · rintro ⟨turns, last, path, starves⟩
    obtain ⟨rest, -, same⟩ := path.loop_eq enough
    rw [start_eq_loop, same, starves.loop_eq rest]

end Start

end Prompt

end TapeLang.Cli
