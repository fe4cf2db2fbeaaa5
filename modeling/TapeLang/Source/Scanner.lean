import TapeLang.Source.Location
import TapeLang.Source.Token

/-!
A cursor over a source. It hands out operator characters, or single bytes, and can step back.
-/

namespace TapeLang

structure Scanner where
  source : Bytes
  file : String
  marks : Bool
  cursor : Nat := 0
  tokenStart : Nat := 0

namespace Scanner

def isToken (scanner : Scanner) (byte : UInt8) : Bool :=
  (Token.ofByte? byte).isSome || (scanner.marks && byte == Token.marker)

def rest (scanner : Scanner) : Bytes :=
  scanner.source.drop scanner.cursor

/-- The next token byte. Without one the cursor goes to the end and the token start stays. -/
def next (scanner : Scanner) : Option UInt8 × Scanner :=
  let skipped := scanner.rest.takeWhile fun byte => !scanner.isToken byte
  let start := scanner.cursor + skipped.length
  match scanner.rest.drop skipped.length with
  | byte :: _ => (some byte, { scanner with cursor := start + 1, tokenStart := start })
  | [] => (none, { scanner with cursor := start })

def nextByte (scanner : Scanner) : Option UInt8 × Scanner :=
  match scanner.rest with
  | byte :: _ => (some byte, { scanner with cursor := scanner.cursor + 1 })
  | [] => (none, scanner)

def back (scanner : Scanner) : Scanner :=
  { scanner with cursor := scanner.cursor - 1 }

def atEnd (scanner : Scanner) : Bool :=
  scanner.source.length ≤ scanner.cursor

/-- Every token byte that is left, with the offset at which the last of them stands. -/
def remaining (scanner : Scanner) : List UInt8 × Scanner :=
  let located := (scanner.rest.zipIdx scanner.cursor).filter fun pair => scanner.isToken pair.1
  let tokenStart := (located.getLast?.map (·.2)).getD scanner.tokenStart
  (located.map (·.1),
    { scanner with cursor := max scanner.cursor scanner.source.length, tokenStart })

def location (scanner : Scanner) (offset : Option Int) : Location :=
  Location.ofOffset scanner.file scanner.source (offset.getD scanner.tokenStart)

end Scanner

end TapeLang
