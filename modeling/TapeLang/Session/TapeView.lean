import TapeLang.Text.Decimal

/-!
The tape as it is shown between lines: the numbers of the cells above their values, with a mark in
place of the number under the pointer.
-/

namespace TapeLang.TapeView

def mark (pointer : Int) (index : Nat) : String :=
  if (index : Int) = pointer then " V " else Text.padLeft 3 (Text.decimal index)

def marks (count : Nat) (pointer : Int) : String :=
  "   ".intercalate ((List.range count).map (mark pointer))

def values (cells : List Int) : String :=
  " | ".intercalate (cells.map fun cell => Text.padLeft 3 (Text.decimal cell))

def render (cells : List Int) (pointer : Int) : String :=
  marks cells.length pointer ++ "\n" ++ values cells

end TapeLang.TapeView
