import TapeLang.Text.Decimal
import TapeLang.Text.Quoted

/-!
The command line's options. Words are first told apart one by one: what is spelled like an option, in
full or by a unique beginning, is one; all words after a divider are plain. The words are then taken
in order. One plain word is the program, and what is left over is refused at the end.
-/

namespace TapeLang.Cli

inductive Switch where
  | help
  | interactive
  | literal
  | commands
  | extension
  | verbose
  | tracebackJson
  deriving DecidableEq, Repr

namespace Switch

def spellings : Switch → List String
  | .help => ["-h", "--help"]
  | .interactive => ["-i", "--interactive"]
  | .literal => ["-source", "--source"]
  | .commands => ["--commands"]
  | .extension => ["--ext"]
  | .verbose => ["-verbose", "--verbose"]
  | .tracebackJson => ["--traceback-json"]

def all : List Switch :=
  [.help, .interactive, .literal, .commands, .extension, .verbose, .tracebackJson]

def takesValue (switch : Switch) : Bool := switch == .extension

def label (switch : Switch) : String := "/".intercalate switch.spellings

def table : List (String × Switch) :=
  all.flatMap fun switch => switch.spellings.map (·, switch)

def ofSpelling? (spelling : String) : Option Switch :=
  (table.find? (·.1 == spelling)).map (·.2)

end Switch

inductive OptionFault where
  | ambiguous (word : String) (candidates : List String)
  | missingValue (switch : Switch)
  | unusedValue (switch : Switch) (value : String)
  | leftOver (words : List String)
  | programNotAllowed
  deriving DecidableEq, Repr

def OptionFault.message : OptionFault → String
  | .ambiguous word candidates =>
    "ambiguous option: " ++ word ++ " could match " ++ ", ".intercalate candidates
  | .missingValue switch => "argument " ++ switch.label ++ ": expected one argument"
  | .unusedValue switch value =>
    "argument " ++ switch.label ++ ": ignored explicit argument " ++ Text.quoted value
  | .leftOver words => "unrecognized arguments: " ++ " ".intercalate words
  | .programNotAllowed => "-i/--interactive does not take a program argument"

/-- An option as it was spelled, with the text that was joined to it. -/
structure OptionUse where
  switch : Switch
  spelling : String
  joined : Option String

inductive Word where
  | plain (text : String)
  | divider
  | option (use : OptionUse)
  | unknown (text : String)

namespace Word

def splitEquals (word : List Char) : Option (String × String) :=
  match word.dropWhile (· != '=') with
  | [] => none
  | _ :: value => some (String.ofList (word.takeWhile (· != '=')), String.ofList value)

def abbreviated (text : String) (joined : Option String) : List OptionUse :=
  (Switch.table.filter (·.1.startsWith text)).map fun (spelling, switch) =>
    { switch, spelling, joined }

/-- The options that a word can be short for. A word with one dash is a one-letter option joined with
more, or the beginning of a spelling. -/
def candidates (word : List Char) : List OptionUse :=
  let text := String.ofList word
  match word with
  | '-' :: '-' :: _ =>
    match splitEquals word with
    | some (front, value) => abbreviated front (some value)
    | none => abbreviated text none
  | _ =>
    Switch.table.filterMap fun (spelling, switch) =>
      if spelling.toList = word.take 2 then
        some { switch, spelling, joined := some (String.ofList (word.drop 2)) }
      else if spelling.startsWith text then some { switch, spelling, joined := none }
      else none

def isDigits (text : List Char) : Bool := text.all fun c => (Text.digitValue? c).isSome

/-- A dash and digits, with at most one point that has a digit after it; a line break may follow. -/
def isNegativeNumber (word : List Char) : Bool :=
  let body := if word.getLast? = some '\n' then word.dropLast else word
  match body with
  | '-' :: number =>
    match number.dropWhile (· != '.') with
    | [] => !number.isEmpty && isDigits number
    | _ :: fraction =>
      isDigits (number.takeWhile (· != '.')) && !fraction.isEmpty && isDigits fraction
  | _ => false

/-- A word that starts with a dash and has more to it. -/
def classifyDashed (word : List Char) : Except OptionFault Word :=
  let text := String.ofList word
  let spelled :=
    (splitEquals word).bind fun (front, value) =>
      (Switch.ofSpelling? front).map fun switch =>
        ({ switch, spelling := front, joined := some value } : OptionUse)
  match spelled with
  | some use => .ok (.option use)
  | none =>
    match candidates word with
    | [use] => .ok (.option use)
    | _ :: _ :: _ => .error (.ambiguous text ((candidates word).map (·.spelling)))
    | [] =>
      if isNegativeNumber word || word.contains ' ' then .ok (.plain text) else .ok (.unknown text)

def classify (text : String) : Except OptionFault Word :=
  match text.toList with
  | '-' :: second :: rest =>
    match Switch.ofSpelling? text with
    | some switch => .ok (.option { switch, spelling := text, joined := none })
    | none => classifyDashed ('-' :: second :: rest)
  | _ => .ok (.plain text)

def classifyAll : List String → Except OptionFault (List Word)
  | [] => .ok []
  | text :: rest =>
    if text = "--" then .ok (.divider :: rest.map .plain)
    else do
      let word ← classify text
      let words ← classifyAll rest
      return word :: words

end Word

structure Invocation where
  program : Option String := none
  interactive : Bool := false
  literal : Bool := false
  commands : Bool := false
  extensions : List String := []
  verbose : Bool := false
  tracebackJson : Bool := false
  deriving DecidableEq, Repr

inductive EarlyExit where
  | help
  | refused (fault : OptionFault)
  deriving DecidableEq, Repr

structure Setting where
  switch : Switch
  value : Option String := none

namespace Setting

def apply (invocation : Invocation) (setting : Setting) : Except EarlyExit Invocation :=
  match setting.switch with
  | .help => .error .help
  | .interactive => .ok { invocation with interactive := true }
  | .literal => .ok { invocation with literal := true }
  | .commands => .ok { invocation with commands := true }
  | .extension => .ok { invocation with extensions := invocation.extensions ++ setting.value.toList }
  | .verbose => .ok { invocation with verbose := true }
  | .tracebackJson => .ok { invocation with tracebackJson := true }

def applyAll (invocation : Invocation) : List Setting → Except EarlyExit Invocation
  | [] => .ok invocation
  | setting :: rest => do
    let invocation ← apply invocation setting
    applyAll invocation rest

/-- The settings of an option that text is joined to. One-letter options without values can be joined
in one word. -/
def ofJoined (switch : Switch) (oneDash : Bool) : List Char → Except OptionFault (List Setting)
  | [] =>
    if switch.takesValue then .ok [{ switch, value := some "" }]
    else .error (.unusedValue switch "")
  | letter :: rest =>
    if switch.takesValue then .ok [{ switch, value := some (String.ofList (letter :: rest)) }]
    else
      match if oneDash then Switch.ofSpelling? (String.ofList ['-', letter]) else none with
      | none => .error (.unusedValue switch (String.ofList (letter :: rest)))
      | some next =>
        if rest.isEmpty then .ok [{ switch }, { switch := next }]
        else (ofJoined next (letter != '-') rest).map ({ switch } :: ·)

end Setting

structure Progress where
  invocation : Invocation := {}
  programTaken : Bool := false
  leftOver : List String := []

namespace Progress

def takePlain (progress : Progress) (text : String) : Progress :=
  if progress.programTaken then { progress with leftOver := progress.leftOver ++ [text] }
  else
    { progress with
      invocation := { progress.invocation with program := some text }
      programTaken := true }

/-- The divider vanishes where the program is still missing or was the word just before; otherwise
it is left over. -/
def takeDivider (progress : Progress) (afterProgram : Bool) : Progress :=
  if progress.programTaken && !afterProgram then
    { progress with leftOver := progress.leftOver ++ ["--"] }
  else progress

/-- Takes the words in order; `afterProgram` says that the word before was taken as the program. -/
def takeAll (progress : Progress) (afterProgram : Bool) : List Word → Except EarlyExit Progress
  | [] => .ok progress
  | .plain text :: rest => takeAll (progress.takePlain text) (!progress.programTaken) rest
  | .divider :: rest => takeAll (progress.takeDivider afterProgram) false rest
  | .unknown text :: rest =>
    takeAll { progress with leftOver := progress.leftOver ++ [text] } false rest
  | .option { switch, spelling, joined := some text } :: rest => do
    let oneDash := spelling.toList[1]? != some '-'
    let settings ← (Setting.ofJoined switch oneDash text.toList).mapError .refused
    let invocation ← Setting.applyAll progress.invocation settings
    takeAll { progress with invocation } false rest
  | .option { switch, joined := none, .. } :: rest =>
    if switch.takesValue then
      match rest with
      | .plain value :: rest => do
        let invocation ← Setting.apply progress.invocation { switch, value := some value }
        takeAll { progress with invocation } false rest
      | _ => .error (.refused (.missingValue switch))
    else do
      let invocation ← Setting.apply progress.invocation { switch }
      takeAll { progress with invocation } false rest

end Progress

def readArguments (arguments : List String) : Except EarlyExit Invocation := do
  let words ← (Word.classifyAll arguments).mapError .refused
  let progress ← Progress.takeAll {} false words
  let invocation := progress.invocation
  if !progress.leftOver.isEmpty then .error (.refused (.leftOver progress.leftOver))
  else if invocation.interactive && invocation.program.isSome then
    .error (.refused .programNotAllowed)
  else .ok invocation

end TapeLang.Cli
