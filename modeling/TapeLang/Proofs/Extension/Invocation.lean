import TapeLang.Proofs.Extension.Binding
import TapeLang.Proofs.Machine.Builtin
import TapeLang.Proofs.Program.Canonical
import TapeLang.Proofs.Text.Words

/-!
Calling what was bound. A line that gives the name of a bound command and arguments behind it, with any
blanks around and between them, is parsed as one command with that name and these arguments. So the command
is found, and its handler is called with the arguments just when there are neither too few of them nor too
many.
-/

namespace TapeLang

structure Text.Argument (text : String) : Prop extends Text.Word text where
  closed : ';' ∉ text.toList

instance (text : String) : Decidable (Text.Argument text) :=
  decidable_of_iff (Text.Word text ∧ ';' ∉ text.toList)
    ⟨fun holds => ⟨holds.1, holds.2⟩, fun argument => ⟨argument.toWord, argument.closed⟩⟩

theorem Text.Blank.closed {text : String} (blank : Text.Blank text) : ';' ∉ text.toList := by
  intro found
  exact absurd (blank ';' found) (by decide)

namespace Registry

variable {registry after : Registry} {spec : CommandSpec} {builtin : Bool}

theorem argument_of_add (added : registry.add spec builtin = .ok after) :
    Text.Argument spec.name ∧ Text.lower spec.name = spec.name := by
  rcases add_cases registry spec builtin with ⟨-, named, -, -⟩ | ⟨⟨fault, refused⟩, -⟩
  · have formed : ¬Malformed spec.name := by
      rw [← is_name_eq_false_iff, named]
      simp
    unfold Malformed at formed
    rw [not_or, not_or, not_not] at formed
    obtain ⟨filled, lower, clean⟩ := formed
    refine ⟨⟨⟨filled, ?_⟩, ?_⟩, lower.symm⟩
    · intro c found
      by_contra blank
      exact clean ⟨c, found, .inl (by simpa using blank)⟩
    · intro found
      exact clean ⟨';', found, .inr rfl⟩
  · cases refused.symm.trans added

end Registry

/-- What stands around the name of a command when it is called: blanks before it, the arguments, each behind
something blank, and blanks at the end. -/
structure Phrase where
  lead : String
  pieces : List (String × String)
  trail : String

namespace Phrase

def arguments (phrase : Phrase) : List String := phrase.pieces.map (·.2)

def payload (phrase : Phrase) (name : String) : String :=
  phrase.lead ++ name ++ Text.spaced phrase.pieces ++ phrase.trail

def line (phrase : Phrase) (name : String) : String := "#" ++ phrase.payload name ++ ";"

structure Sound (phrase : Phrase) : Prop where
  lead : Text.Blank phrase.lead
  trail : Text.Blank phrase.trail
  pieces : ∀ piece ∈ phrase.pieces, (piece.1 ≠ "" ∧ Text.Blank piece.1) ∧ Text.Argument piece.2

instance (phrase : Phrase) : Decidable phrase.Sound :=
  decidable_of_iff (Text.Blank phrase.lead ∧ Text.Blank phrase.trail ∧ ∀ piece ∈ phrase.pieces,
      (piece.1 ≠ "" ∧ Text.Blank piece.1) ∧ Text.Argument piece.2)
    ⟨fun holds => ⟨holds.1, holds.2.1, holds.2.2⟩, fun sound => ⟨sound.lead, sound.trail, sound.pieces⟩⟩

namespace Sound

variable {phrase : Phrase} {name : String}

theorem closed (sound : phrase.Sound) (named : Text.Argument name) :
    ';' ∉ (phrase.payload name).toList := by
  have between : ';' ∉ (Text.spaced phrase.pieces).toList := by
    rw [Text.to_list_spaced, List.mem_flatMap]
    rintro ⟨piece, member, found⟩
    obtain ⟨⟨-, blank⟩, argument⟩ := sound.pieces piece member
    rcases List.mem_append.mp found with inBlanks | inWord
    · exact blank.closed inBlanks
    · exact argument.closed inWord
  simp only [payload, String.toList_append, List.mem_append, not_or]
  exact ⟨⟨⟨sound.lead.closed, named.closed⟩, between⟩, sound.trail.closed⟩

theorem parse_line (sound : phrase.Sound) (named : Text.Argument name) (file : String) :
    parse (Text.encode (phrase.line name)) file .command = .ok [.command (phrase.payload name)] := by
  have canonical : Canonical [.command (phrase.payload name)] := by
    refine ⟨.single trivial, .singleton _, ?_⟩
    intro text found
    cases List.mem_singleton.mp found
    exact sound.closed named
  have written : unparse [.command (phrase.payload name)] = phrase.line name := by
    rw [unparse, unparse, String.append_empty]
    rfl
  rw [← written]
  exact canonical.parse_unparse file

theorem words (sound : phrase.Sound) (named : Text.Argument name) :
    Text.words (phrase.payload name) = name :: phrase.arguments := by
  apply Text.words_spaced named.toWord _ sound.lead sound.trail
  intro piece found
  obtain ⟨separated, argument⟩ := sound.pieces piece found
  exact ⟨separated, argument.toWord⟩

end Sound

end Phrase

def CommandSpec.Takes (spec : CommandSpec) (given : Int) : Prop :=
  spec.minArgs ≤ given ∧ ∀ most, spec.maxArgs = some most → given ≤ most

theorem CommandSpec.accepts_iff (spec : CommandSpec) (given : Int) :
    spec.accepts given = true ↔ spec.Takes given := by
  unfold accepts Takes
  cases spec.maxArgs <;> simp

namespace Run

def tellAfter (spec : CommandSpec) (arguments : List String) : Run Unit :=
  discard <| notify .afterCommand (.afterCommand spec.name) arguments

/-- Calls the handler of a command with arguments: the files that they name are included, the tape is
cleared, or a script is carried out on them. Those who listen after it are told what is left of them. -/
def callHandler (spec : CommandSpec) (arguments : List String) : Run Unit :=
  match spec.handler with
  | .includeFiles => do
    includeFiles arguments
    tellAfter spec arguments
  | .clearTape => do
    clearTape
    tellAfter spec arguments
  | .script actions => do
    let left ← performAll ⟨spec.origin, .command⟩ arguments actions
    tellAfter spec left

variable {world : World} {spec : CommandSpec}

theorem handle_bind_tell_after (arguments : List String) :
    (handle spec arguments >>= tellAfter spec : Run Unit) = callHandler spec arguments := by
  unfold handle callHandler
  cases spec.handler with
  | includeFiles => rw [bind_assoc, pure_bind]
  | clearTape => rw [bind_assoc, pure_bind]
  | script actions => rfl

def call (spec : CommandSpec) (arguments : List String) : Run Unit := do
  let given ← notify .beforeCommand (.beforeCommand spec.name) arguments
  callHandler spec given

theorem call_unlistened (arguments : List String)
    (nobody : world.host.services.listenersOf .beforeCommand = []) :
    call spec arguments world = callHandler spec arguments world := by
  rw [call, bind_eq, notify_unlistened _ arguments nobody]

def refusal (spec : CommandSpec) (given : Nat) (ip : Int) : Fault :=
  .runtime { cause := .wrongArity spec.name spec.arity given, ip := some ip, rule := some spec.name }

/-- A bound command is called when it takes its arguments, and else refused before anything happens. -/
theorem command_of_bound {text : String} (ip : Int) (named : commandName text = spec.name)
    (filled : spec.name ≠ "")
    (bound : world.host.services.commands.lookup spec.name = some spec) :
    (spec.Takes (commandArguments text).length →
        command text ip world = call spec (commandArguments text) world) ∧
      (¬spec.Takes (commandArguments text).length →
        command text ip world = .error (refusal spec (commandArguments text).length ip) world) := by
  have begins : command text ip world =
      (lift .runtime (resolve world.host.services.commands text ip) >>= fun spec => do
        let given ← notify .beforeCommand (.beforeCommand (commandName text)) (commandArguments text)
        let left ← handle spec given
        discard <| notify .afterCommand (.afterCommand (commandName text)) left : Run Unit) world := rfl
  rw [begins, ← spec.accepts_iff]
  rcases resolve_cases world.host.services.commands text with
    ⟨empty | unbound, -⟩ | ⟨other, found, resolved⟩
  · exact absurd (named.symm.trans empty) filled
  · rw [named, bound] at unbound
    cases unbound
  · rw [named, bound] at found
    cases found
    rcases resolved with ⟨refused, fails⟩ | ⟨accepted, resolves⟩
    · refine ⟨fun accepted => absurd (refused.symm.trans accepted) (by simp), fun _ => ?_⟩
      rw [fails ip, named]
      rfl
    · refine ⟨fun _ => ?_, fun refused => absurd accepted refused⟩
      rw [resolves ip, named, call, ← funext handle_bind_tell_after]
      rfl

end Run

/-- Every command that can be bound can be called. A line with its name and any arguments is parsed as one
command with that name and these arguments. Wherever the binding is kept, executing the command calls the
handler with the arguments if so many are taken; otherwise it fails and changes nothing. -/
theorem bound_command_can_be_called {registry bound : Registry} {spec : CommandSpec} {builtin : Bool}
    (added : registry.add spec builtin = .ok bound) {phrase : Phrase} (sound : phrase.Sound)
    (file : String) :
    parse (Text.encode (phrase.line spec.name)) file .command =
        .ok [.command (phrase.payload spec.name)] ∧
      commandName (phrase.payload spec.name) = spec.name ∧
      commandArguments (phrase.payload spec.name) = phrase.arguments ∧
      ∀ (world : World) (ip : Int), bound.Keeps world.host.services.commands →
        world.host.services.commands.lookup (commandName (phrase.payload spec.name)) = some spec ∧
        (spec.Takes phrase.arguments.length →
          Run.command (phrase.payload spec.name) ip world = Run.call spec phrase.arguments world ∧
          (world.host.services.listenersOf .beforeCommand = [] →
            (spec.handler = .includeFiles →
              Run.command (phrase.payload spec.name) ip world = (do
                Run.includeFiles phrase.arguments
                Run.tellAfter spec phrase.arguments : Run Unit) world) ∧
            (spec.handler = .clearTape →
              Run.command (phrase.payload spec.name) ip world = (do
                Run.clearTape
                Run.tellAfter spec phrase.arguments : Run Unit) world) ∧
            ∀ actions, spec.handler = .script actions →
              Run.command (phrase.payload spec.name) ip world = (do
                let left ← Run.performAll ⟨spec.origin, .command⟩ phrase.arguments actions
                Run.tellAfter spec left : Run Unit) world)) ∧
        (¬spec.Takes phrase.arguments.length →
          Run.command (phrase.payload spec.name) ip world =
            .error (Run.refusal spec phrase.arguments.length ip) world) := by
  obtain ⟨named, lower⟩ := Registry.argument_of_add added
  have words := sound.words named
  have called : commandName (phrase.payload spec.name) = spec.name := by
    rw [commandName, words]
    exact lower
  have given : commandArguments (phrase.payload spec.name) = phrase.arguments := by
    rw [commandArguments, words]
    rfl
  refine ⟨sound.parse_line named file, called, given, ?_⟩
  intro world ip keeps
  have kept := keeps spec.name spec (Registry.lookup_of_add added)
  obtain ⟨calls, refuses⟩ := Run.command_of_bound ip called named.filled kept
  rw [given] at calls refuses
  refine ⟨by rw [called, kept], fun takes => ⟨calls takes, fun nobody => ?_⟩, refuses⟩
  rw [calls takes, Run.call_unlistened phrase.arguments nobody, Run.callHandler]
  refine ⟨fun files => ?_, fun tape => ?_, fun actions script => ?_⟩
  · rw [files]
  · rw [tape]
  · rw [script]

def wideSpec : CommandSpec where
  name := "größe+"
  handler := .script [.note .null, .emit [7]]
  minArgs := 1
  maxArgs := some 2

def wideCall : Setup where
  program := [.command " größe+\t[x]\u3000ß,\n"]
  services := { commands := ⟨[wideSpec]⟩ }

/-- The name holds an operator and a letter that is no single byte, and a wide blank stands between the
arguments. The handler notes the arguments that it is called with and writes a byte. -/
theorem called_behind_wide_blank :
    ∃ (spec : CommandSpec) (bound : Registry) (phrase : Phrase) (world after : World),
      Registry.add {} spec false = .ok bound ∧ phrase.Sound ∧
      bound.Keeps world.host.services.commands ∧ spec.Takes phrase.arguments.length ∧
      phrase.line spec.name = "# größe+\t[x]\u3000ß,\n;" ∧
      parse (Text.encode "# größe+\t[x]\u3000ß,\n;") "" .command =
        .ok [.command " größe+\t[x]\u3000ß,\n"] ∧
      Run.command " größe+\t[x]\u3000ß,\n" 0 world = Run.call spec ["[x]", "ß,"] world ∧
      Run.command " größe+\t[x]\u3000ß,\n" 0 world = .ok () after ∧
      after.host.notes.toList.map (fun note => (note.kind, note.details)) =
        [("command", [.arguments ["[x]", "ß,"]])] ∧
      after.machine.history.toList = [7] := by
  let phrase : Phrase := ⟨" ", [("\t", "[x]"), ("\u3000", "ß,")], "\n"⟩
  have named : Registry.isName wideSpec.name = true := by decide +kernel
  have added : Registry.add {} wideSpec false = .ok ⟨[wideSpec]⟩ := by
    rcases Registry.add_cases {} wideSpec false with
      ⟨bound, -⟩ | ⟨-, malformed | ⟨reserved, -⟩ | ⟨_, taken⟩⟩
    · exact bound
    · rw [(Registry.is_name_eq_false_iff _).mpr malformed] at named
      cases named
    · exact absurd reserved (by decide)
    · cases taken
  have keeps : Registry.Keeps ⟨[wideSpec]⟩ wideCall.world.host.services.commands :=
    (Registry.Orderly.empty.add added).1.with_builtins.2.1
  have sound : phrase.Sound := by decide +kernel
  have takes : wideSpec.Takes phrase.arguments.length := by
    rw [← wideSpec.accepts_iff]
    decide
  have payload : phrase.payload wideSpec.name = " größe+\t[x]\u3000ß,\n" := by decide +kernel
  have line : phrase.line wideSpec.name = "# größe+\t[x]\u3000ß,\n;" := by
    rw [Phrase.line, payload]
    decide +kernel
  obtain ⟨parsed, -, -, executed⟩ := bound_command_can_be_called added sound ""
  obtain ⟨-, calls, -⟩ := executed wideCall.world 0 keeps
  rw [line, payload] at parsed
  rw [payload] at calls
  obtain ⟨called, handles⟩ := calls takes
  obtain ⟨-, -, performs⟩ := handles rfl
  exact ⟨wideSpec, _, phrase, wideCall.world, _, added, sound, keeps, takes, line, parsed, called,
    (performs _ rfl).trans rfl, rfl, rfl⟩

end TapeLang
