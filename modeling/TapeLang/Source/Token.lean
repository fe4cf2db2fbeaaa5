import TapeLang.Text.Utf8

/-!
Tokens of a source. Eight bytes are operators and every other byte is a comment. Depending on the
dialect a marker byte is a comment too, a token without effect, or the start of a command whose
payload runs to the terminator or the end of the source.
-/

namespace TapeLang

/-- The four operators of which equal neighbours are counted together. -/
inductive Counted where
  | increment
  | decrement
  | shiftLeft
  | shiftRight
  deriving DecidableEq, Repr

inductive Atom where
  | counted (kind : Counted)
  | output
  | input
  | command (payload : Bytes)
  | mark
  deriving DecidableEq, Repr

inductive Token where
  | atom (atom : Atom)
  | opening
  | closing
  deriving DecidableEq, Repr

structure Located where
  offset : Nat
  token : Token
  deriving DecidableEq, Repr

/-- How a marker byte is taken. -/
inductive Dialect where
  | plain
  | marked
  | commands
  deriving DecidableEq, Repr

namespace Token

def marker : UInt8 := 35

def terminator : UInt8 := 59

def ofByte? (byte : UInt8) : Option Token :=
  if byte = 43 then some (.atom (.counted .increment))
  else if byte = 45 then some (.atom (.counted .decrement))
  else if byte = 60 then some (.atom (.counted .shiftLeft))
  else if byte = 62 then some (.atom (.counted .shiftRight))
  else if byte = 46 then some (.atom .output)
  else if byte = 44 then some (.atom .input)
  else if byte = 91 then some .opening
  else if byte = 93 then some .closing
  else none

/-- A payload being read: where its command started, and its bytes, latest first. -/
structure Payload where
  start : Nat
  reversed : Bytes

def Payload.token (payload : Payload) : Located :=
  ⟨payload.start, .atom (.command payload.reversed.reverse)⟩

def scanFrom (dialect : Dialect) : Option Payload → Nat → Bytes → List Located
  | none, _, [] => []
  | some payload, _, [] => [payload.token]
  | some payload, offset, byte :: rest =>
    if byte = terminator then payload.token :: scanFrom dialect none (offset + 1) rest
    else scanFrom dialect (some ⟨payload.start, byte :: payload.reversed⟩) (offset + 1) rest
  | none, offset, byte :: rest =>
    if byte = marker then
      match dialect with
      | .plain => scanFrom dialect none (offset + 1) rest
      | .marked => ⟨offset, .atom .mark⟩ :: scanFrom dialect none (offset + 1) rest
      | .commands => scanFrom dialect (some ⟨offset, []⟩) (offset + 1) rest
    else
      match ofByte? byte with
      | some token => ⟨offset, token⟩ :: scanFrom dialect none (offset + 1) rest
      | none => scanFrom dialect none (offset + 1) rest

def scan (dialect : Dialect) (start : Nat) (source : Bytes) : List Located :=
  scanFrom dialect none start source

end Token

end TapeLang
