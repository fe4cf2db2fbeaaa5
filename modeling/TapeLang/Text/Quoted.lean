import TapeLang.Text.Printable

/-!
Quoted text as it stands in messages. Single quotes are used unless the text holds a single quote and
no double one; the quote in use, the backslash and hidden characters are escaped.
-/

namespace TapeLang.Text

def hexDigits (width number : Nat) : String :=
  let digits := Nat.toDigits 16 number
  String.ofList (List.replicate (width - digits.length) '0' ++ digits)

/-- The escape of a character by its code point, in the shortest of the three widths. -/
def escapeCode (c : Char) : String :=
  let code := c.toNat
  if code ≤ 0xFF then "\\x" ++ hexDigits 2 code
  else if code ≤ 0xFFFF then "\\u" ++ hexDigits 4 code
  else "\\U" ++ hexDigits 8 code

def quoteChar (quote c : Char) : String :=
  if c = quote ∨ c = '\\' then String.ofList ['\\', c]
  else if c = '\n' then "\\n"
  else if c = '\r' then "\\r"
  else if c = '\t' then "\\t"
  else if isPrintable c then String.singleton c
  else escapeCode c

def quoteFor (text : String) : Char :=
  if text.toList.contains '\'' && !text.toList.contains '"' then '"' else '\''

def quoted (text : String) : String :=
  let quote := quoteFor text
  String.singleton quote ++ String.join (text.toList.map (quoteChar quote)) ++ String.singleton quote

def bracketed (items : List String) : String :=
  "[" ++ ", ".intercalate items ++ "]"

def quotedList (texts : List String) : String :=
  bracketed (texts.map quoted)

end TapeLang.Text
