import TapeLang.Text.Utf8

/-!
Path texts: their absolute form, last component and stem. These are rules on texts; no file is looked
at.
-/

namespace TapeLang.Path

/-- The components of a path text between slashes; empty ones and single dots are dropped. -/
def components (path : String) : List String :=
  (path.splitOn "/").filter fun component => component != "" && component != "."

/-- Cancels each parent component against the one before it. At the root it cancels nothing. -/
def collapse (components : List String) : List String :=
  (components.foldl
    (fun kept component => if component = ".." then kept.drop 1 else component :: kept) []).reverse

/-- Exactly two leading slashes are kept, any other number of them is one. -/
def rootText (path : String) : String :=
  match path.toList with
  | '/' :: '/' :: '/' :: _ => "/"
  | '/' :: '/' :: _ => "//"
  | _ => "/"

def absolute (directory path : String) : String :=
  let full := if path.toList.head? = some '/' then path else directory ++ "/" ++ path
  rootText full ++ "/".intercalate (collapse (components full))

def base (path : String) : String :=
  ((path.splitOn "/").getLast?).getD ""

/-- The last dot that has something other than dots before it starts the suffix. -/
def withoutSuffix (name : String) : String :=
  let reversed := name.toList.reverse
  let suffix := reversed.takeWhile (· != '.')
  let front := reversed.drop (suffix.length + 1)
  if front.any (· != '.') then String.ofList front.reverse else name

def stem (path : String) : String :=
  withoutSuffix (base path)

end TapeLang.Path
