/-!
UTF-8. Writing is exact; reading never fails, because every maximal stretch of bytes that begins a
character and cannot be completed is read as one replacement character.

A text consists of Unicode scalar values. Half a surrogate pair is no such value: text with a lone surrogate,
which UTF-8 cannot write, is left out, and a reader that meets the bytes of one reads replacements.
-/

namespace TapeLang

abbrev Bytes := List UInt8

namespace Text

def encode (text : String) : Bytes :=
  text.toList.flatMap String.utf8EncodeChar

def replacement : Char := '\uFFFD'

/-- A character of which some bytes have been read: the bits so far, how many bytes are missing, and
the bounds of the next one. -/
structure Partial where
  bits : Nat
  missing : Nat
  least : UInt8
  greatest : UInt8

inductive Lead where
  | whole (c : Char)
  | opens (state : Partial)
  | invalid

def lead (byte : UInt8) : Lead :=
  if byte < 0x80 then .whole (Char.ofNat byte.toNat)
  else if byte < 0xC2 then .invalid
  else if byte < 0xE0 then .opens ⟨byte.toNat - 0xC0, 1, 0x80, 0xBF⟩
  else if byte = 0xE0 then .opens ⟨0, 2, 0xA0, 0xBF⟩
  else if byte = 0xED then .opens ⟨0xD, 2, 0x80, 0x9F⟩
  else if byte < 0xF0 then .opens ⟨byte.toNat - 0xE0, 2, 0x80, 0xBF⟩
  else if byte = 0xF0 then .opens ⟨0, 3, 0x90, 0xBF⟩
  else if byte < 0xF4 then .opens ⟨byte.toNat - 0xF0, 3, 0x80, 0xBF⟩
  else if byte = 0xF4 then .opens ⟨4, 3, 0x80, 0x8F⟩
  else .invalid

def Partial.bitsWith (state : Partial) (byte : UInt8) : Nat :=
  state.bits * 64 + (byte.toNat - 0x80)

mutual

def decodeStart : Bytes → List Char
  | [] => []
  | byte :: rest =>
    match lead byte with
    | .whole c => c :: decodeStart rest
    | .opens state => decodeInside state rest
    | .invalid => replacement :: decodeStart rest

/-- Reads bytes inside a character. A byte out of bounds ends the broken character and begins the
next one. -/
def decodeInside (state : Partial) : Bytes → List Char
  | [] => [replacement]
  | byte :: rest =>
    if state.least ≤ byte ∧ byte ≤ state.greatest then
      if state.missing ≤ 1 then Char.ofNat (state.bitsWith byte) :: decodeStart rest
      else decodeInside ⟨state.bitsWith byte, state.missing - 1, 0x80, 0xBF⟩ rest
    else
      match lead byte with
      | .whole c => replacement :: c :: decodeStart rest
      | .opens next => replacement :: decodeInside next rest
      | .invalid => replacement :: replacement :: decodeStart rest

end

def decode (bytes : Bytes) : String :=
  String.ofList (decodeStart bytes)

end Text

end TapeLang
