import TapeLang.Source.Token
import TapeLang.Text.Blank
import TapeLang.Text.Decimal
import TapeLang.Text.Lower

/-!
Instructions of a flat program. Jumps hold absolute indexes: a loop start points just past its loop
end, and a loop end points at its loop start.
-/

namespace TapeLang

inductive Instruction where
  | counted (kind : Counted) (count : Nat)
  | output
  | input
  | loopStart (target : Option Int)
  | loopEnd (start : Int)
  | command (text : String)
  | foreign (text : String)
  deriving DecidableEq, Repr

namespace Counted

def sign : Counted → String
  | .increment => "+"
  | .decrement => "-"
  | .shiftLeft => "<"
  | .shiftRight => ">"

def name : Counted → String
  | .increment => "Increment"
  | .decrement => "Decrement"
  | .shiftLeft => "ShiftLeft"
  | .shiftRight => "ShiftRight"

end Counted

namespace Instruction

def text : Instruction → String
  | .counted kind count => kind.sign ++ Text.decimal count
  | .output => "."
  | .input => ","
  | .loopStart none => "[?"
  | .loopStart (some target) => "[->" ++ Text.decimal target
  | .loopEnd start => "]<" ++ Text.decimal start
  | .command text => "#" ++ text ++ ";"
  | .foreign text => text

/-- The name of an instruction's kind, under which its steps are logged. -/
def kindName : Instruction → String
  | .counted kind _ => kind.name
  | .output => "Output"
  | .input => "Input"
  | .loopStart _ => "LoopStart"
  | .loopEnd _ => "LoopEnd"
  | .command _ => "Command"
  | .foreign _ => "Alien"

def relocate (offset : Int) : Instruction → Instruction
  | .loopStart (some target) => .loopStart (some (target + offset))
  | .loopEnd start => .loopEnd (start + offset)
  | instruction => instruction

@[simp] theorem relocate_zero (instruction : Instruction) : instruction.relocate 0 = instruction := by
  cases instruction with
  | loopStart target => cases target <;> simp [relocate]
  | _ => simp [relocate]

theorem relocate_relocate (first second : Int) (instruction : Instruction) :
    (instruction.relocate first).relocate second = instruction.relocate (first + second) := by
  cases instruction with
  | loopStart target => cases target <;> simp [relocate, Int.add_assoc]
  | _ => simp [relocate, Int.add_assoc]

end Instruction

/-- The name of a command text, in lower case; a blank text has the empty name. -/
def commandName (text : String) : String :=
  match Text.words text with
  | [] => ""
  | name :: _ => Text.lower name

def commandArguments (text : String) : List String :=
  (Text.words text).drop 1

def relocate (offset : Int) (fragment : List Instruction) : List Instruction :=
  fragment.map (Instruction.relocate offset)

@[simp] theorem length_relocate (offset : Int) (fragment : List Instruction) :
    (relocate offset fragment).length = fragment.length := by
  simp [relocate]

@[simp] theorem relocate_append (offset : Int) (front back : List Instruction) :
    relocate offset (front ++ back) = relocate offset front ++ relocate offset back := by
  simp [relocate]

@[simp] theorem relocate_zero (fragment : List Instruction) : relocate 0 fragment = fragment :=
  (List.map_congr_left fun instruction _ => instruction.relocate_zero).trans (List.map_id fragment)

/-- Moving twice is moving once by the sum. -/
theorem relocate_relocate (first second : Int) (fragment : List Instruction) :
    relocate second (relocate first fragment) = relocate (first + second) fragment := by
  simp [relocate, Instruction.relocate_relocate]

end TapeLang
