import SessionInventory.Address.Name.Folding
import SessionInventory.Address.Name.Writing
import SessionInventory.Address.Punycode
import SessionInventory.Text.Composed

/-!
# Host names

A host name is a row of labels with dots between them. `Name.ascii?` gives its spelling in ASCII and
small letters. In a name of other characters all of them are folded first, and a label with
characters beyond ASCII is coded behind `xn--`; a label that comes coded must be the code of one that
would be coded so.
-/

namespace SessionInventory.Address

/-- The characters that no host has. -/
def forbiddenInHost (c : Char) : Bool :=
  "\x00\t\n\r #/:<>?@[\\]^|".toList.contains c

namespace Name

/-- Whether a character is one of ASCII. -/
def isAscii (c : Char) : Bool := c.toNat < 0x80

/-- The characters of ASCII that no name has, once its letters are small. -/
def isForbidden (c : Char) : Bool :=
  c < ' ' || c = '\x7f' || c = '%' || c.isUpper || forbiddenInHost c

/-- What stands in front of the code of a label. -/
def codeMark : List Char := ['x', 'n', '-', '-']

/-- Whether a label is coded. -/
def isCoded (label : List Char) : Bool := codeMark.isPrefixOf label

/-- The longest label that is coded. -/
def longestLabel : Nat := 1000

/-- The longest code that is read. -/
def longestCode : Nat := 2000

/-- A label with what it stands for. -/
structure Label where
  /-- In ASCII. -/
  spelling : List Char
  /-- With characters beyond ASCII. -/
  full : List Char

/-- The label that a folded text gives. -/
def Label.ofText (text : List Char) : Option Label :=
  if isCoded text then
    let code := text.drop codeMark.length
    if code.getLast?.all (· = '-') ∨ longestCode < code.length then none
    else match Punycode.decode code with
      | none => none
      | some full =>
        if full.all isFolded ∧ Composed.composed full = full ∧ ¬full.contains '.' then some ⟨text, full⟩
        else none
  else if text.all isAscii then some ⟨text, text⟩
  else some ⟨codeMark ++ Punycode.encode text, text⟩

/-- Whether the characters of a label may stand where they do. -/
def Label.fits (label : Label) : Bool :=
  !label.full.any isForbidden && !label.full.head?.any isMark && joinersFit [] label.full &&
    (label.full.all isAscii || label.full.length ≤ longestLabel)

/-- The labels of a text once its characters are folded. -/
def labels? (text : List Char) : Option (List Label) :=
  (text.mapM fold?).bind fun folded =>
    ((Composed.composed folded.flatten).splitOn '.').mapM Label.ofText

/-- The spelling in ASCII of a name with characters beyond it or coded labels. -/
def foldedAscii? (text : List Char) : Option (List Char) :=
  match labels? text with
  | none => none
  | some labels =>
    if ¬labels.all Label.fits then none
    else if labels.any (·.full.any turns) ∧ ¬labels.all (keepsDirection ·.full) then none
    else some (['.'].intercalate (labels.map (·.spelling)))

/-- The spelling of a name in ASCII and small letters, if it is a name. -/
def ascii? (text : List Char) : Option (List Char) :=
  let small := text.map Char.toLower
  if small.all isAscii ∧ ¬(small.splitOn '.').any isCoded then
    if small.any isForbidden then none else some small
  else foldedAscii? text

end Name

end SessionInventory.Address
