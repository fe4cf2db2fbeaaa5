/-!
Blank characters, and the two ways in which blanks delimit text: splitting a text into its words and
trimming its ends.
-/

namespace TapeLang.Text

/-- The blank characters: the ASCII controls from tab to carriage return, the four information
separators, and every space and line separator of the character database. -/
def isBlank (c : Char) : Bool :=
  let code := c.toNat
  (0x09 ≤ code && code ≤ 0x0D) || (0x1C ≤ code && code ≤ 0x20) || code == 0x85 || code == 0xA0
    || code == 0x1680 || (0x2000 ≤ code && code ≤ 0x200A) || code == 0x2028 || code == 0x2029
    || code == 0x202F || code == 0x205F || code == 0x3000

/-- Puts a character in front of a text that is already split: it extends the first word when the
text goes on directly, and opens a word of its own when a blank or the end follows. -/
def joinWord (c : Char) (following : List Char) (words : List (List Char)) : List (List Char) :=
  match following, words with
  | next :: _, word :: rest => if isBlank next then [c] :: word :: rest else (c :: word) :: rest
  | _, words => [c] :: words

def splitWords : List Char → List (List Char)
  | [] => []
  | c :: rest => if isBlank c then splitWords rest else joinWord c rest (splitWords rest)

def words (text : String) : List String :=
  (splitWords text.toList).map String.ofList

def strip (text : String) : String :=
  String.ofList ((text.toList.dropWhile isBlank).reverse.dropWhile isBlank).reverse

end TapeLang.Text
