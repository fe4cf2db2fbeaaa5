import TapeLang.Cli.Options

/-!
The fixed texts of the command line.
-/

namespace TapeLang.Cli

def lines (texts : List String) : String := "\n".intercalate texts

def usage : String := lines [
  "usage: brainrust [-h] [-i] [-source] [--commands] [--ext EXT] [-verbose]",
  "                 [--traceback-json]",
  "                 [program]"]

def help : String := lines [
  usage,
  "",
  "brainrust tape-language interpreter",
  "",
  "positional arguments:",
  "  program              Source file path or literal source with -source",
  "",
  "options:",
  "  -h, --help           show this help message and exit",
  "  -i, --interactive    Start the interactive REPL",
  "  -source, --source    Treat program argument as literal source text",
  "  --commands           Recognise #command; sequences in the program",
  "  --ext EXT            Extension module (.py) defining",
  "                       brainrust_register(ext); repeatable",
  "  -verbose, --verbose  Record tape snapshots and show them in tracebacks",
  "  --traceback-json     Also emit JSON traceback"]

def refusal (fault : OptionFault) : String := lines [
  usage,
  "brainrust: error: " ++ fault.message]

def colored (text : String) : String := "\x1b[38;2;153;221;255m" ++ text ++ "\x1b[0m"

def banner : String :=
  colored "brainrust" ++ " REPL. #include <file>; and #clear; are available, 'exit' quits."

def sourcePrompt : String := colored ">>>" ++ " "

def inputPrompt : String := colored "in>" ++ " "

end TapeLang.Cli
