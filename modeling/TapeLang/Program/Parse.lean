import TapeLang.Program.Compile
import TapeLang.Source.Scanner

/-!
Parsing: from source bytes to a flat program, or to the bracket at fault.
-/

namespace TapeLang

inductive Mode where
  | normal
  | command
  deriving DecidableEq, Repr

inductive SyntaxFault where
  | unmatchedClosing (location : Location)
  | unmatchedOpening (location : Location)
  | consumed (file : String)
  | described (text : String)
  deriving DecidableEq, Repr

namespace SyntaxFault

def message : SyntaxFault → String
  | .unmatchedClosing location => "Unmatched ']' at " ++ location.text
  | .unmatchedOpening location => "Unmatched '[' at " ++ location.text
  | .consumed file => "Parser for " ++ file ++ " has already been consumed"
  | .described text => text

def ofBracket (file : String) (source : Bytes) : BracketFault → SyntaxFault
  | .unmatchedClosing offset => .unmatchedClosing (Location.ofOffset file source offset)
  | .unmatchedOpening offset => .unmatchedOpening (Location.ofOffset file source offset)

end SyntaxFault

/-- How markers are taken, by whether they are tokens at all and by the mode. -/
def Dialect.of (marks : Bool) : Mode → Dialect
  | .normal => if marks then .marked else .plain
  | .command => if marks then .commands else .plain

def Mode.dialect (mode : Mode) : Dialect :=
  Dialect.of (mode == .command) mode

def compileTokens (tokens : List Located) : Except BracketFault (List Instruction) :=
  (Tree.ofTokens tokens).map Tree.compile

def parse (source : Bytes) (file : String) (mode : Mode) : Except SyntaxFault (List Instruction) :=
  (compileTokens (Token.scan mode.dialect 0 source)).mapError (SyntaxFault.ofBracket file source)

namespace Scanner

/-- The offset of the last token that was read: the closing bracket at fault, or else the last of
all. -/
def lastRead (tokens : List Located) (before : Nat) : Except BracketFault α → Nat
  | .error (.unmatchedClosing offset) => offset
  | _ => (tokens.getLast?.map (·.offset)).getD before

/-- Where reading stopped: past the closing bracket at fault, or else at the end. -/
def stopped (size : Nat) : Except BracketFault α → Nat
  | .error (.unmatchedClosing offset) => offset + 1
  | _ => size

def parse (scanner : Scanner) (mode : Mode) : Except SyntaxFault (List Instruction) × Scanner :=
  let tokens := Token.scan (Dialect.of scanner.marks mode) scanner.cursor scanner.rest
  let compiled := compileTokens tokens
  (compiled.mapError (SyntaxFault.ofBracket scanner.file scanner.source),
    { scanner with
      cursor := max scanner.cursor (stopped scanner.source.length compiled)
      tokenStart := lastRead tokens scanner.tokenStart compiled })

end Scanner

/-- A scanner that is parsed once and refuses a second time. -/
structure Reader where
  scanner : Scanner
  mode : Mode
  consumed : Bool := false

def Reader.parse (reader : Reader) : Except SyntaxFault (List Instruction) × Reader :=
  if reader.consumed then (.error (.consumed reader.scanner.file), reader)
  else
    let (parsed, scanner) := reader.scanner.parse reader.mode
    (parsed, { reader with scanner, consumed := true })

end TapeLang
