import TapeLang.Cli.Texts
import TapeLang.Machine.Traceback
import TapeLang.Session.Feed
import TapeLang.Session.TapeView

/-!
The prompt loop. Typed lines are taken one at a time, as source at the prompt and as program input when
the program asks for it. A failing line is reported and the loop goes on; it ends at the word `exit`
or when no line is left.
-/

namespace TapeLang.Cli

/-- How the command line ends: with a result code, by leaving early with a code, or with a fault that
nothing catches. -/
inductive Ending where
  | returned (code : Int)
  | left (code : Int)
  | uncaught (fault : Fault)
  deriving DecidableEq

structure Outcome where
  host : Host
  ending : Ending

def shown (host : Host) (text : String) : Host :=
  { host with trace := host.trace.push (.shown text) }

def showLine (host : Host) (line : String) : Host := shown host (line ++ "\n")

def complain (host : Host) (line : String) : Host :=
  { host with diagnostics := host.diagnostics.push line }

structure Prompt where
  session : Session := {}
  world : World
  keyboard : Keyboard

namespace Prompt

def onHost (prompt : Prompt) (change : Host → Host) : Prompt :=
  { prompt with world := { prompt.world with host := change prompt.world.host } }

def outcome (prompt : Prompt) (ending : Ending) : Outcome := { host := prompt.world.host, ending }

def tapeView (machine : Machine) : String :=
  TapeView.render (machine.cells.map fun cell => (cell.toNat : Int)) machine.pointer

/-- What is shown after a line that succeeded. The tape starts on a line of its own. -/
def afterLine (prompt : Prompt) (written : Bytes) : Prompt :=
  let separated :=
    match written.getLast? with
    | some byte => if byte = Location.newline then prompt else prompt.onHost (showLine · "")
    | none => prompt
  separated.onHost (showLine · (tapeView prompt.world.machine))

/-- Reports a failed line, unless nothing catches the fault. -/
def afterFault (prompt : Prompt) (verbose : Bool) : Fault → Except Fault Prompt
  | .badSyntax fault => .ok (prompt.onHost (complain · ("ParseError: " ++ fault.message)))
  | .runtime fault =>
    .ok (prompt.onHost (complain · (Traceback.text prompt.world.machine fault verbose)))
  | fault => .error fault

/-- Takes over what a fed line has left, the keyboard included. -/
def afterFeed (prompt : Prompt) (fed : Fed) : Prompt :=
  { session := fed.session
    world := fed.world
    keyboard :=
      match fed.world.source with
      | .typed keyboard => keyboard
      | .queue _ _ => prompt.keyboard }

/-- Goes through at most `turns` typed lines. There is no outcome when a line runs out of fuel. -/
def loop (fuel : Nat) (verbose : Bool) : Nat → Prompt → Option Outcome
  | 0, prompt => some (prompt.outcome (.returned 0))
  | turns + 1, prompt =>
    let asked := prompt.onHost (shown · sourcePrompt)
    match asked.keyboard.lines with
    | [] => some ((asked.onHost (showLine · "")).outcome (.returned 0))
    | line :: lines =>
      let taken := { asked with keyboard := { asked.keyboard with lines } }
      if Text.strip line = "exit" then some (taken.outcome (.returned 0))
      else if (Text.strip line).isEmpty then loop fuel verbose turns taken
      else do
        let world := { taken.world with source := .typed taken.keyboard }
        let fed ← taken.session.feed fuel line (some {}) world
        let next := taken.afterFeed fed
        match fed.outcome with
        | .ok written => loop fuel verbose turns (next.afterLine written)
        | .error fault =>
          match next.afterFault verbose fault with
          | .ok next => loop fuel verbose turns next
          | .error fault => some (next.outcome (.uncaught fault))

def start (fuel : Nat) (verbose : Bool) (host : Host) (typed : List String) : Option Outcome :=
  let host := showLine host banner
  match Session.machine verbose with
  | .error fault => some { host, ending := .uncaught (.value fault) }
  | .ok machine =>
    let keyboard : Keyboard := { prompt := inputPrompt, lines := typed }
    let world : World := { machine, source := .typed keyboard, host := host.bindBuiltins }
    loop fuel verbose (typed.length + 1) { world, keyboard }

end Prompt

end TapeLang.Cli
