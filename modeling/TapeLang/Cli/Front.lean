import TapeLang.Cli.Prompt
import TapeLang.Extension.Load

/-!
The command line as a whole: options, extensions, then either the prompt loop or one program from a
file or from the command line itself.
-/

namespace TapeLang.Cli

/-- The typed lines in the bytes of standard input. A last line needs no newline. -/
def typedLines (input : Bytes) : List String :=
  let pieces := input.splitOn Location.newline
  let lines := if pieces.getLast? = some [] then pieces.dropLast else pieces
  lines.map Text.decode

structure ProgramText where
  source : Bytes
  file : String

def programText (files : FileSystem) (literal : Bool) (program : String) :
    Except Fault ProgramText :=
  if literal then .ok { source := Text.encode program, file := "<string>" }
  else (files.read program).map ({ source := ·, file := program })

def reportRun (invocation : Invocation) (ended : Ended) : Outcome :=
  let host := ended.world.host
  let machine := ended.world.machine
  match ended.fault with
  | none => { host, ending := .returned 0 }
  | some (.badSyntax fault) =>
    { host := complain host ("ParseError: " ++ fault.message), ending := .returned 1 }
  | some (.runtime fault) =>
    let host := complain host (Traceback.text machine fault invocation.verbose)
    { host :=
        if invocation.tracebackJson then complain host (Traceback.json machine fault) else host
      ending := .returned 1 }
  | some fault => { host, ending := .uncaught fault }

def runProgram (fuel : Nat) (invocation : Invocation) (text : ProgramText) (input : Bytes)
    (host : Host) : Option Outcome :=
  match parse text.source text.file (if invocation.commands then .command else .normal) with
  | .error fault =>
    some { host := complain host ("ParseError: " ++ fault.message), ending := .returned 1 }
  | .ok program =>
    let shownFile := host.files.shownName text.file
    match Machine.create program shownFile invocation.verbose Machine.defaultTapeSize with
    | .error fault => some { host, ending := .uncaught (.value fault) }
    | .ok machine =>
      let world : World := { machine, source := Source.ofBytes input, host := host.bindBuiltins }
      (Run.run fuel (.direct {}) world).map (reportRun invocation)

def invoke (fuel : Nat) (invocation : Invocation) (input : Bytes) (host : Host) :
    Option Outcome :=
  if invocation.interactive then Prompt.start fuel invocation.verbose host (typedLines input)
  else
    match invocation.program with
    | none =>
      let complaint := if invocation.literal then "-source requires a program string" else usage
      some { host := complain host complaint, ending := .returned 1 }
    | some program =>
      match programText host.files invocation.literal program with
      | .ok text => runProgram fuel invocation text input host
      | .error (.file fault) =>
        some {
          host := complain host ("Failed to read " ++ program ++ ": " ++ fault.message)
          ending := .returned 1
        }
      | .error fault => some { host, ending := .uncaught fault }

/-- Runs a command line; there is no outcome when the fuel does not last. -/
def run (fuel : Nat) (arguments : List String) (input : Bytes) (files : FileSystem) :
    Option Outcome :=
  let host : Host := { files }
  match readArguments arguments with
  | .error .help => some { host := showLine host help, ending := .left 0 }
  | .error (.refused fault) =>
    some { host := complain host (refusal fault), ending := .left 2 }
  | .ok invocation =>
    match Extension.loadAll files {} invocation.extensions with
    | .ok services => invoke fuel invocation input { host with services }
    | .error (.extension fault) =>
      some { host := complain host ("ExtensionError: " ++ fault.message), ending := .returned 1 }
    | .error fault => some { host, ending := .uncaught fault }

end TapeLang.Cli
