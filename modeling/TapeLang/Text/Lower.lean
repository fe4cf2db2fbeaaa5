import TapeLang.Text.CaseTable

/-!
Lower-casing of whole texts. Almost every character maps on its own; the dotted capital I becomes two
characters, and a capital sigma becomes the final form when it ends a word.
-/

namespace TapeLang.Text

def lowerChar (c : Char) : Char :=
  match lowerRows.find? (·.covers c.toNat) with
  | some row => Char.ofNat (c.toNat + row.shift).toNat
  | none => c

/-- The nearest character that is not passed over is a cased letter. -/
def casedFirst (neighbours : List Char) : Bool :=
  match neighbours.dropWhile fun c => inRanges caseIgnorableRanges c.toNat with
  | c :: _ => inRanges casedRanges c.toNat
  | [] => false

/-- The small forms of one character between the text before it, nearest first, and after it. -/
def lowerAt (before : List Char) (c : Char) (after : List Char) : List Char :=
  if c = '\u0130' then ['i', '\u0307']
  else if c = '\u03A3' then
    if casedFirst before && !casedFirst after then ['\u03C2'] else ['\u03C3']
  else [lowerChar c]

def lowerFrom : List Char → List Char → List Char
  | _, [] => []
  | before, c :: rest => lowerAt before c rest ++ lowerFrom (c :: before) rest

def lower (text : String) : String :=
  String.ofList (lowerFrom [] text.toList)

end TapeLang.Text
