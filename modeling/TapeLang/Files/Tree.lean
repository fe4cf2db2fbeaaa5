import TapeLang.Files.System

/-!
A file system held in memory as a table of entries below the root. A path is walked component by
component, so that the first component at fault decides the failure.
-/

namespace TapeLang

inductive FileNode where
  | file (content : FileContent)
  | directory

structure FileTree where
  entries : List (List String × FileNode) := []

namespace FileTree

def directory : String := "/work"

def home : List String := Path.collapse (Path.components directory)

/-- The root and the directory always exist; a directory also exists when something is below it. -/
def find? (tree : FileTree) (place : List String) : Option FileNode :=
  match tree.entries.find? (·.1 == place) with
  | some entry => some entry.2
  | none =>
    if place.isEmpty || place.isPrefixOf home || tree.entries.any (place.isPrefixOf ·.1)
    then some .directory else none

def insert (tree : FileTree) (path : String) (node : FileNode) : FileTree :=
  ⟨tree.entries ++ [(Path.collapse (Path.components (Path.absolute directory path)), node)]⟩

/-- The longest component and the longest path, in bytes. -/
def componentLimit : Nat := 255

def pathLimit : Nat := 4095

def walk (tree : FileTree) (path : String) :
    List String → List String → Except FileFault FileContent
  | _, [] => .error (.isDirectory path)
  | place, component :: rest =>
    if component = "" || component = "." then walk tree path place rest
    else if component = ".." then walk tree path place.dropLast rest
    else if componentLimit < (Text.encode component).length then .error (.nameTooLong path)
    else
      match tree.find? (place ++ [component]) with
      | none => .error (.missing path)
      | some .directory => walk tree path (place ++ [component]) rest
      | some (.file content) => if rest.isEmpty then .ok content else .error (.notDirectory path)

def openFile (tree : FileTree) (path : String) : Except FileFault FileContent :=
  if path.isEmpty then .error (.missing path)
  else if pathLimit < (Text.encode path).length then .error (.nameTooLong path)
  else
    let start := if path.toList.head? = some '/' then [] else home
    tree.walk path start (path.splitOn "/")

def system (tree : FileTree) : FileSystem := { directory, openFile := tree.openFile }

end FileTree

end TapeLang
