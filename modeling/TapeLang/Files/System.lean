import TapeLang.Extension.Script
import TapeLang.Files.Path

/-!
A read-only file system, as seen through opening: every path either opens to a content or fails for a
reason. It does not change while something runs.

The content of an extension file is what loading it offers. Its own text is left out: where such a file is
read as a program, it reads as empty, so what is said about programs in files is meant for files of bytes.
-/

namespace TapeLang

inductive FileContent where
  | bytes (bytes : Bytes)
  | extension (extension : ExtensionModule)

/-- An extension file has no program text of its own. -/
def FileContent.text : FileContent → Bytes
  | .bytes contents => contents
  | .extension _ => []

/-- A plain file is an extension that defines nothing. -/
def FileContent.asExtension : FileContent → ExtensionModule
  | .bytes _ => {}
  | .extension contents => contents

structure FileSystem where
  directory : String
  openFile : String → Except FileFault FileContent

namespace FileSystem

/-- File names are shown in absolute form; names in angle brackets stand for no file. -/
def shownName (files : FileSystem) (file : String) : String :=
  if file.toList.head? = some '<' then file else Path.absolute files.directory file

/-- Reads a whole file. A path with a NUL character is no path. -/
def read (files : FileSystem) (path : String) : Except Fault Bytes :=
  if path.toList.contains '\x00' then .error (.value .embeddedNul)
  else
    match files.openFile path with
    | .ok content => .ok content.text
    | .error fault => .error (.file fault)

/-- The content at a path that names a regular file. -/
def regular? (files : FileSystem) (path : String) : Option FileContent :=
  if path.toList.contains '\x00' then none else (files.openFile path).toOption

end FileSystem

end TapeLang
