import TapeLang.Text.Decimal
import TapeLang.Text.Quoted

/-!
Structured values with ordered members, and their indented ASCII text.
-/

namespace TapeLang

inductive Json where
  | null
  | bool (value : Bool)
  | int (value : Int)
  | str (value : String)
  | arr (items : List Json)
  | obj (members : List (String × Json))
  deriving Inhabited

namespace Json

def escapeUnit (unit : Nat) : String := "\\u" ++ Text.hexDigits 4 unit

/-- Only printable ASCII stands for itself; characters past the first plane are written as a pair of
units. -/
def escapeChar (c : Char) : String :=
  let code := c.toNat
  if c = '"' then "\\\""
  else if c = '\\' then "\\\\"
  else if c = '\n' then "\\n"
  else if c = '\r' then "\\r"
  else if c = '\t' then "\\t"
  else if code = 0x08 then "\\b"
  else if code = 0x0C then "\\f"
  else if 0x20 ≤ code ∧ code < 0x7F then String.singleton c
  else if code ≤ 0xFFFF then escapeUnit code
  else
    escapeUnit (0xD800 + (code - 0x10000) / 0x400) ++ escapeUnit (0xDC00 + (code - 0x10000) % 0x400)

def quote (text : String) : String :=
  "\"" ++ String.join (text.toList.map escapeChar) ++ "\""

def lineBreak (depth : Nat) : String :=
  "\n" ++ String.ofList (List.replicate (2 * depth) ' ')

/-- Lays out the items of a bracketed group, one a line; an empty group stays on its line. -/
def group (opening closing : String) (depth : Nat) (items : List String) : String :=
  match items with
  | [] => opening ++ closing
  | items =>
    opening ++ lineBreak (depth + 1) ++ ("," ++ lineBreak (depth + 1)).intercalate items
      ++ lineBreak depth ++ closing

mutual

def render (depth : Nat) : Json → String
  | .null => "null"
  | .bool value => if value then "true" else "false"
  | .int value => Text.decimal value
  | .str value => quote value
  | .arr items => group "[" "]" depth (renderItems (depth + 1) items)
  | .obj members => group "\x7b" "\x7d" depth (renderMembers (depth + 1) members)

def renderItems (depth : Nat) : List Json → List String
  | [] => []
  | item :: rest => render depth item :: renderItems depth rest

def renderMembers (depth : Nat) : List (String × Json) → List String
  | [] => []
  | (name, value) :: rest => (quote name ++ ": " ++ render depth value) :: renderMembers depth rest

end

def scalarText : Json → String
  | .null => "None"
  | .bool value => if value then "True" else "False"
  | .int value => Text.decimal value
  | .str value => value
  | .arr _ => "[...]"
  | .obj _ => "\x7b...\x7d"

def lookup (name : String) : List (String × Json) → Option Json
  | [] => none
  | (key, value) :: rest => if key = name then some value else lookup name rest

def assign (name : String) (value : Json) : List (String × Json) → List (String × Json)
  | [] => [(name, value)]
  | (key, old) :: rest =>
    if key = name then (key, value) :: rest else (key, old) :: assign name value rest

end Json

end TapeLang
