import TapeLang.Fault

/-!
Where input bytes come from. A queue hands out what it holds and then behaves the same way for ever; a
keyboard is refilled one typed line at a time.
-/

namespace TapeLang

/-- What one read brings. Characters count as bytes as far as their code points fit. -/
inductive Delivery where
  | byte (byte : UInt8)
  | char (c : Char)
  | nothing
  | failure (fault : Fault)

/-- Typed lines, what is left of the line that was taken last, and the text that asks for a line. -/
structure Keyboard where
  prompt : String := ""
  pending : Bytes := []
  lines : List String := []

namespace Keyboard

/-- A line is taken when nothing is pending. -/
def refill (keyboard : Keyboard) : Keyboard :=
  match keyboard.pending, keyboard.lines with
  | [], line :: lines => { keyboard with pending := Text.encode line ++ [Location.newline], lines }
  | _, _ => keyboard

/-- How many of the pending bytes a request takes; a negative request takes all. -/
def taken (pending : Nat) (count : Int) : Nat :=
  if count < 0 then pending else min count.toNat pending

def read (keyboard : Keyboard) (count : Int) : Bytes × Keyboard :=
  let filled := keyboard.refill
  let size := taken filled.pending.length count
  (filled.pending.take size, { filled with pending := filled.pending.drop size })

end Keyboard

inductive Source where
  | queue (items : List Delivery) (after : Delivery)
  | typed (keyboard : Keyboard)

namespace Source

def ofBytes (bytes : Bytes) : Source := .queue (bytes.map .byte) .nothing

def take : Source → Delivery × Source
  | .queue (item :: items) after => (item, .queue items after)
  | .queue [] after => (after, .queue [] after)
  | .typed keyboard =>
    match keyboard.read 1 with
    | (byte :: _, rest) => (.byte byte, .typed rest)
    | ([], rest) => (.nothing, .typed rest)

def prompt? : Source → Option String
  | .queue _ _ => none
  | .typed keyboard => if keyboard.pending.isEmpty then some keyboard.prompt else none

end Source

end TapeLang
