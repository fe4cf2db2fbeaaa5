import TapeLang.Cli.Front

/-!
The program: it reads what a command line may need, carries it out, and prints what came of it.
-/

namespace TapeLang.Main

/-- Every file that the commands in a source could name. -/
def commandPaths (source : Bytes) : List String :=
  (Token.scan .commands 0 source).flatMap fun located =>
    match located.token with
    | .atom (.command payload) => commandArguments (Text.decode payload)
    | _ => []

def fileFault (path : String) (error : IO.Error) : FileFault :=
  match error with
  | .noFileOrDirectory _ _ _ => .missing path
  | .inappropriateType _ 21 _ => .isDirectory path
  | .inappropriateType _ _ _ => .notDirectory path
  | error => .described (toString error)

abbrev Opened := String × Except FileFault FileContent

def openPath (path : String) : IO Opened := do
  try
    let bytes ← IO.FS.readBinFile path
    return (path, .ok (.bytes bytes.toList))
  catch error => return (path, .error (fileFault path error))

def filesOf (directory : String) (opened : List Opened) : FileSystem where
  directory
  openFile path :=
    match opened.find? (·.1 == path) with
    | some (_, result) => result
    | none => .error (.missing path)

def commandSources (arguments : List String) (input : Bytes) (opened : List Opened) : List Bytes :=
  input :: arguments.map Text.encode
    ++ opened.filterMap fun (_, result) => result.toOption.map (·.text)

partial def readInput (stream : IO.FS.Stream) (bytes : ByteArray) : IO Bytes := do
  let chunk ← stream.read 65536
  if chunk.isEmpty then return bytes.toList
  readInput stream (bytes ++ chunk)

/-- No run is cut short in practice. -/
def fuel : Nat := 1000000000000000000

def finish (ending : Cli.Ending) : IO UInt32 := do
  match ending with
  | .returned code => return UInt32.ofNat code.toNat
  | .left code => return UInt32.ofNat code.toNat
  | .uncaught fault =>
    IO.eprintln fault.message
    return 1

def execute (arguments : List String) : IO UInt32 := do
  let input ← readInput (← IO.getStdin) ByteArray.empty
  let named ← arguments.mapM openPath
  let included ← ((commandSources arguments input named).flatMap commandPaths).mapM openPath
  let directory := (← IO.currentDir).toString
  match Cli.run fuel arguments input (filesOf directory (named ++ included)) with
  | none => return 1
  | some outcome =>
    let output ← IO.getStdout
    output.write ⟨outcome.host.output.toArray⟩
    output.flush
    IO.eprint outcome.host.errorText
    finish outcome.ending

end TapeLang.Main

def main (arguments : List String) : IO UInt32 :=
  TapeLang.Main.execute arguments
