import TapeLang.Text.Decimal
import TapeLang.Text.Utf8

/-!
Places in a source: lines are ended by newline bytes and columns count bytes, both from one. An offset
may be any integer. Past the end the whole source is searched for newlines; a negative one searches
the source without that many of its last bytes.
-/

namespace TapeLang

structure Location where
  file : String
  line : Nat
  column : Int
  deriving DecidableEq, Repr

namespace Location

def newline : UInt8 := 10

def searched (size : Nat) (offset : Int) : Nat :=
  if offset < 0 then (offset + size).toNat else min offset.toNat size

/-- The offset at which the last line of a text starts. -/
def lastLineStart (text : Bytes) : Nat :=
  text.length - (text.reverse.takeWhile (· != newline)).length

def ofOffset (file : String) (source : Bytes) (offset : Int) : Location :=
  let text := source.take (searched source.length offset)
  { file, line := text.count newline + 1, column := offset - lastLineStart text + 1 }

def text (location : Location) : String :=
  location.file ++ ":" ++ Text.decimal location.line ++ ":" ++ Text.decimal location.column

end Location

end TapeLang
