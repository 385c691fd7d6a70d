import SessionInventory.Text.Composed.Pairs
import SessionInventory.Text.Marks

/-!
# Composed texts

A letter with a mark can be one character or two, and marks can come in different orders. `composed`
brings every spelling of a text to one: characters are taken apart, marks are put in the order of
their classes, and what can be one character becomes one.
-/

namespace SessionInventory.Composed

/-! ## Hangul

A syllable is made of a leading consonant, a vowel, and perhaps a trailing consonant, and its number
follows from theirs.
-/

/-- The first syllable. -/
def syllables : Nat := 0xAC00

/-- The number of leading consonants, which begin at U+1100. -/
def leadingCount : Nat := 19

/-- The number of vowels, which begin at U+1161. -/
def vowelCount : Nat := 21

/-- The number of trailing consonants and of none, which stands at U+11A7. -/
def trailingCount : Nat := 28

/-- The two characters that a syllable stands for. -/
def takeSyllable? (c : Char) : Option (Char × Char) :=
  let n := c.toNat - syllables
  if c.toNat < syllables ∨ leadingCount * vowelCount * trailingCount ≤ n then none
  else if n % trailingCount = 0 then
    some (Char.ofNat (0x1100 + n / trailingCount / vowelCount),
      Char.ofNat (0x1161 + n / trailingCount % vowelCount))
  else some (Char.ofNat (c.toNat - n % trailingCount), Char.ofNat (0x11A7 + n % trailingCount))

/-- The syllable that two characters make. -/
def makeSyllable? (a b : Char) : Option Char :=
  let leading := a.toNat - 0x1100
  let vowel := b.toNat - 0x1161
  let trailing := b.toNat - 0x11A7
  if 0x1100 ≤ a.toNat ∧ leading < leadingCount ∧ 0x1161 ≤ b.toNat ∧ vowel < vowelCount then
    some (Char.ofNat (syllables + (leading * vowelCount + vowel) * trailingCount))
  else if (takeSyllable? a).isSome ∧ (a.toNat - syllables) % trailingCount = 0 ∧
      0x11A7 < b.toNat ∧ trailing < trailingCount then
    some (Char.ofNat (a.toNat + trailing))
  else none

/-! ## Taking apart and putting together -/

/-- The two characters that a character stands for. -/
def take? (c : Char) : Option (Char × Char) :=
  match takeSyllable? c with
  | some parts => some parts
  | none => (pairs.find? (·.whole = c)).map fun p => (p.first, p.second)

/-- The character that two make. -/
def make? (a b : Char) : Option Char :=
  match makeSyllable? a b with
  | some c => some c
  | none => (pairs.find? fun p => p.first = a ∧ p.second = b).map (·.whole)

/-- A character taken apart, its first part up to `n` times more. -/
def apart : (n : Nat) → Char → List Char
  | 0, c => [c]
  | n + 1, c =>
    if c.toNat < 0x80 then [c]
    else match take? c with
      | some (first, second) => apart n first ++ [second]
      | none => [c]

/-- Puts a character in front of others, and behind those of them that are marks of a lower class. -/
def place (c : Char) : List Char → List Char
  | [] => [c]
  | d :: rest =>
    if 0 < classOf d ∧ classOf d < classOf c then d :: place c rest else c :: d :: rest

/-- Puts neighbouring marks in the order of their classes. -/
def ordered (text : List Char) : List Char := text.foldr place []

/-- Puts a text together from a character on. Between it and the rest stand the marks `kept`, given
backwards, that did not go together with it; a character is only tried if none of them is in its
way. -/
def together (start : Char) (kept : List Char) : List Char → List Char
  | [] => start :: kept.reverse
  | c :: rest =>
    let free := match kept with
      | [] => true
      | last :: _ => classOf last < classOf c
    match if free then make? start c else none with
    | some whole => together whole kept rest
    | none =>
      if classOf c = 0 then start :: kept.reverse ++ together c [] rest
      else together start (c :: kept) rest

/-- Puts a text together whose marks are in order. -/
def compose : List Char → List Char
  | [] => []
  | c :: rest => if classOf c = 0 then together c [] rest else c :: compose rest

/-- The one spelling of a text. No character is made of more than four. -/
def composed (text : List Char) : List Char :=
  compose (ordered (text.flatMap (apart 4)))

end SessionInventory.Composed
