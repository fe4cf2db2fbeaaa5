import TapeLang.Text.Blank

/-!
Whole numbers as text: zero-filled writing, and reading of numerals with an optional sign, single
underscores between digits, the decimal digits of every script, and blanks at the two ends.
-/

namespace TapeLang.Text

/-- The zeros of the decimal digit blocks, each followed by its one to nine. -/
def digitZeros : List Nat := [
  0x30, 0x660, 0x6F0, 0x7C0, 0x966, 0x9E6, 0xA66, 0xAE6, 0xB66, 0xBE6, 0xC66, 0xCE6, 0xD66,
  0xDE6, 0xE50, 0xED0, 0xF20, 0x1040, 0x1090, 0x17E0, 0x1810, 0x1946, 0x19D0, 0x1A80, 0x1A90,
  0x1B50, 0x1BB0, 0x1C40, 0x1C50, 0xA620, 0xA8D0, 0xA900, 0xA9D0, 0xA9F0, 0xAA50, 0xABF0,
  0xFF10, 0x104A0, 0x10D30, 0x11066, 0x110F0, 0x11136, 0x111D0, 0x112F0, 0x11450, 0x114D0,
  0x11650, 0x116C0, 0x11730, 0x118E0, 0x11950, 0x11C50, 0x11D50, 0x11DA0, 0x16A60, 0x16AC0,
  0x16B50, 0x1D7CE, 0x1D7D8, 0x1D7E2, 0x1D7EC, 0x1D7F6, 0x1E140, 0x1E2F0, 0x1E950, 0x1FBF0
]

def digitValue? (c : Char) : Option Nat :=
  (digitZeros.find? fun first => first ≤ c.toNat && c.toNat ≤ first + 9).map (c.toNat - ·)

def decimal (number : Int) : String :=
  match number with
  | .ofNat n => String.ofList (Nat.toDigits 10 n)
  | .negSucc n => "-" ++ String.ofList (Nat.toDigits 10 (n + 1))

/-- Fills with zeros on the left of the whole text, sign included. -/
def padLeft (width : Nat) (text : String) : String :=
  String.ofList (List.replicate (width - text.length) '0') ++ text

/-- Fills with zeros between the sign and the digits; the sign counts towards the width. -/
def decimalFilled (width : Nat) (number : Int) : String :=
  match number with
  | .ofNat n => padLeft width (String.ofList (Nat.toDigits 10 n))
  | .negSucc n => "-" ++ padLeft (width - 1) (String.ofList (Nat.toDigits 10 (n + 1)))

inductive NumeralFault where
  | malformed (text : String)
  | tooLong (digits : Nat)
  deriving DecidableEq

/-- More digits than this are refused. -/
def numeralDigitLimit : Nat := 4300

/-- The information separators are blank elsewhere but not around a numeral. -/
def isNumeralBlank (c : Char) : Bool :=
  isBlank c && !(0x1C ≤ c.toNat && c.toNat ≤ 0x1F)

def isNumeralChar (c : Char) : Bool :=
  (digitValue? c).isSome || c == '_'

/-- Every underscore stands between two digits, and there is a digit. -/
def wellGrouped : List Char → Bool
  | [] => false
  | [c] => c != '_'
  | c :: next :: rest => c != '_' && (if next = '_' then wellGrouped rest else wellGrouped (next :: rest))

def splitSign : List Char → Bool × List Char
  | '-' :: rest => (true, rest)
  | '+' :: rest => (false, rest)
  | rest => (false, rest)

def ofDigits (digits : List Nat) : Nat :=
  digits.foldl (fun value digit => value * 10 + digit) 0

/-- Reads a numeral. Its length is judged before what follows it. -/
def readInteger (text : String) : Except NumeralFault Int :=
  let (negative, unsigned) := splitSign (text.toList.dropWhile isNumeralBlank)
  let body := unsigned.takeWhile isNumeralChar
  let digits := body.filterMap digitValue?
  if !wellGrouped body then .error (.malformed text)
  else if numeralDigitLimit < digits.length then .error (.tooLong digits.length)
  else if !(unsigned.dropWhile isNumeralChar).all isNumeralBlank then .error (.malformed text)
  else if negative then .ok (-(ofDigits digits : Int))
  else .ok (ofDigits digits)

end TapeLang.Text
