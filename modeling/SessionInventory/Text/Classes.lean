/-!
# Classes of characters

White space as Unicode has it, digits in bases up to sixteen with letters of either case for those
from ten on, and the sets that standards define by listing them, as ranges of character numbers.
`Ranges.read` takes these from a text: numbers in hexadecimal, or the first and last of a range with a
hyphen between them, and blanks or line breaks after each.
-/

namespace SessionInventory

/-! ## White space -/

namespace Blank

/-- Whether a character is white space. -/
def isBlank (c : Char) : Bool :=
  let n := c.toNat
  (0x09 ≤ n && n ≤ 0x0D) || n = 0x20 || n = 0x85 || n = 0xA0 || n = 0x1680 ||
    (0x2000 ≤ n && n ≤ 0x200A) || n = 0x2028 || n = 0x2029 || n = 0x202F || n = 0x205F || n = 0x3000

/-- A text without the white space around it. -/
def trim (text : List Char) : List Char :=
  ((text.dropWhile isBlank).reverse.dropWhile isBlank).reverse

end Blank

/-! ## Digits -/

namespace Digits

/-- The value of a digit in a base. -/
def value? (base : Nat) (c : Char) : Option Nat :=
  let value :=
    if c.isDigit then c.toNat - '0'.toNat
    else if 'a' ≤ c ∧ c ≤ 'f' then c.toNat - 'a'.toNat + 10
    else if 'A' ≤ c ∧ c ≤ 'F' then c.toNat - 'A'.toNat + 10
    else base
  if value < base then some value else none

/-- The number that a text spells in a base; no digits at all spell zero. -/
def number? (base : Nat) (text : List Char) : Option Nat :=
  text.foldlM (fun n c => (value? base c).map (base * n + ·)) 0

end Digits

/-! ## Listed characters -/

/-- The pieces of a text between its blanks and line breaks. -/
def words (text : String) : List (List Char) :=
  (text.toList.splitOnP fun c => c = ' ' || c = '\n').filter (· ≠ [])

/-- The character number that a text gives in hexadecimal. -/
def characterNumber (text : List Char) : Nat := (Digits.number? 16 text).getD 0

/-- Ranges of character numbers, each by its first and last. -/
abbrev Ranges := List (Nat × Nat)

namespace Ranges

/-- The range that a word gives. -/
def readRange (word : List Char) : Nat × Nat :=
  match word.splitOn '-' with
  | [first, last] => (characterNumber first, characterNumber last)
  | _ => (characterNumber word, characterNumber word)

/-- The ranges that a text lists. -/
def read (text : String) : Ranges := (words text).map readRange

/-- Whether a character is in one of the ranges. -/
def contains (ranges : Ranges) (c : Char) : Bool :=
  ranges.any fun (first, last) => first ≤ c.toNat && c.toNat ≤ last

end Ranges

end SessionInventory
