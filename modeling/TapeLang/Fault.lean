import TapeLang.Program.Parse
import TapeLang.Text.Quoted

/-!
What can go wrong, by cause, and the message of each cause. A runtime fault also says where it arose: the
instruction index, the rule that was violated and the step of the log.

These are the errors that a program, a script or a stream can raise. What ends a process from outside is not
among them: an interrupt from the keyboard and a request to exit are not modelled, nor is a memory that runs
out, so nothing is said about what such an event leaves behind.
-/

namespace TapeLang

inductive FileFault where
  | missing (path : String)
  | notDirectory (path : String)
  | isDirectory (path : String)
  | nameTooLong (path : String)
  | described (text : String)
  deriving DecidableEq, Repr

def FileFault.message : FileFault → String
  | .missing path => "[Errno 2] No such file or directory: " ++ Text.quoted path
  | .notDirectory path => "[Errno 20] Not a directory: " ++ Text.quoted path
  | .isDirectory path => "[Errno 21] Is a directory: " ++ Text.quoted path
  | .nameTooLong path => "[Errno 36] File name too long: " ++ Text.quoted path
  | .described text => text

inductive ValueFault where
  | countTooSmall (kind : Counted) (count : Int)
  | tapeTooSmall (size : Int)
  | negativeLimit
  | embeddedNul
  | numeral (fault : Text.NumeralFault)
  | described (text : String)
  deriving DecidableEq

def ValueFault.message : ValueFault → String
  | .countTooSmall kind count => kind.name ++ " count must be >= 1, got " ++ Text.decimal count
  | .tapeTooSmall size => "tape_size must be >= 1, got " ++ Text.decimal size
  | .negativeLimit => "maxlen must be non-negative"
  | .embeddedNul => "embedded null byte"
  | .numeral (.malformed text) =>
    "invalid literal for int() with base 10: " ++ String.ofList ((Text.quoted text).toList.take 200)
  | .numeral (.tooLong digits) =>
    "Exceeds the limit (" ++ Text.decimal Text.numeralDigitLimit
      ++ " digits) for integer string conversion: value has " ++ Text.decimal digits
      ++ " digits; use sys.set_int_max_str_digits() to increase the limit"
  | .described text => text

inductive IndexFault where
  | noSuchItem
  | notAnOffset
  | outsideTape (index : Int) (capacity : Nat)
  | wordTooLarge
  | notATapeIndex
  deriving DecidableEq, Repr

/-- Two to the sixty-third: an index from here on, or below its negative, is no machine word. -/
def IndexFault.wordBound : Int := 9223372036854775808

def IndexFault.message : IndexFault → String
  | .noSuchItem => "list index out of range"
  | .notAnOffset => "cannot fit 'int' into an index-sized integer"
  | .outsideTape index capacity =>
    "index " ++ Text.decimal index ++ " is out of bounds for axis 0 with size "
      ++ Text.decimal capacity
  | .wordTooLarge => "Python int too large to convert to C long"
  | .notATapeIndex =>
    "only integers, slices (`:`), ellipsis (`...`), numpy.newaxis (`None`) and integer or boolean "
      ++ "arrays are valid indices"

inductive ExtensionFault where
  | notFound (path : String)
  | notLoadable (path : String)
  | wrongVersion (path version : String)
  | notCallable (path : String)
  | malformedName (name : String)
  | builtinName (name : String)
  | takenName (name origin : String)
  | unknownEvent (event : String) (known : List String)
  | described (text : String)
  deriving DecidableEq, Repr

def ExtensionFault.message : ExtensionFault → String
  | .notFound path => "Extension not found: " ++ path
  | .notLoadable path => "Failed to load extension module: " ++ path
  | .wrongVersion path version =>
    "Extension " ++ path ++ " requires API " ++ version ++ ", host supports 1"
  | .notCallable path => "Extension " ++ path ++ " must define callable brainrust_register(ext)"
  | .malformedName name =>
    "Invalid command name " ++ Text.quoted name ++ ": use one lower-case word"
  | .builtinName name => "#" ++ name ++ " is a built-in command and cannot be redefined"
  | .takenName name origin => "#" ++ name ++ " is already provided by " ++ origin
  | .unknownEvent event known =>
    "Unknown event '" ++ event ++ "' (known: " ++ ", ".intercalate known ++ ")"
  | .described text => text

inductive RuntimeCause where
  | unresolvedLoop (index : Int)
  | unknownInstruction (text : String) (index : Int)
  | wrongArity (command arity : String) (given : Nat)
  | unsupported (command : String) (arguments : List String)
  | inputEnded
  | inputFailed (reason : String)
  | hookFailed (event reason : String)
  | unexpected (reason : String)
  | described (text : String)
  | describedInput (text : String)
  deriving DecidableEq, Repr

namespace RuntimeCause

def message : RuntimeCause → String
  | .unresolvedLoop index =>
    "Unresolved loop start at instruction " ++ Text.decimal index ++ " (parser contract violation)"
  | .unknownInstruction text index => "Unknown instruction " ++ text ++ " at " ++ Text.decimal index
  | .wrongArity command arity given =>
    "Command '" ++ command ++ "' expects " ++ arity ++ " arguments, got " ++ Text.decimal given
  | .unsupported command arguments =>
    "Command '" ++ (if command.isEmpty then "<empty>" else command) ++ "' is not supported (args: "
      ++ Text.quotedList arguments ++ ")"
  | .inputEnded => "Input stream ended before a byte was read"
  | .inputFailed reason => "Failed to read input: " ++ reason
  | .hookFailed event reason => "Extension hook '" ++ event ++ "' failed: " ++ reason
  | .unexpected reason => "Internal interpreter error: " ++ reason
  | .described text => text
  | .describedInput text => text

/-- The heading under which a traceback shows the fault. -/
def heading : RuntimeCause → String
  | .unsupported _ _ => "BFUnsupportedCommandError"
  | .inputEnded => "BFInputError"
  | .inputFailed _ => "BFInputError"
  | .describedInput _ => "BFInputError"
  | _ => "BFRuntimeError"

end RuntimeCause

structure RuntimeFault where
  cause : RuntimeCause
  ip : Option Int := none
  rule : Option String := none
  step : Option Int := none
  deriving DecidableEq, Repr

def RuntimeFault.message (fault : RuntimeFault) : String := fault.cause.message

inductive Fault where
  | program (text : String)
  | badSyntax (fault : SyntaxFault)
  | runtime (fault : RuntimeFault)
  | extension (fault : ExtensionFault)
  | value (fault : ValueFault)
  | file (fault : FileFault)
  | index (fault : IndexFault)
  | refused (text : String)
  | endOfFile (text : String)
  | unencodable (c : Char)
  | cannotFlush
  deriving DecidableEq

namespace Fault

def message : Fault → String
  | .program text => text
  | .badSyntax fault => fault.message
  | .runtime fault => fault.message
  | .extension fault => fault.message
  | .value fault => fault.message
  | .file fault => fault.message
  | .index fault => fault.message
  | .refused text => text
  | .endOfFile text => text
  | .unencodable c =>
    "'latin-1' codec can't encode character '" ++ Text.escapeCode c
      ++ "' in position 0: ordinal not in range(256)"
  | .cannotFlush => "'OutputStream' object has no attribute 'flush'"

/-- The fault belongs to the program that ran: it is reported as it is and never wrapped. -/
def ofProgram : Fault → Bool
  | .program _ => true
  | .badSyntax _ => true
  | .runtime _ => true
  | _ => false

end Fault

def Instruction.counted? (kind : Counted) (count : Int) : Except ValueFault Instruction :=
  if count < 1 then .error (.countTooSmall kind count) else .ok (.counted kind count.toNat)

end TapeLang
