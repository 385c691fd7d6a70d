import SessionInventory.Decimal
import SessionInventory.Json.Value

/-!
# Writing values

A value is written on one line (`Value.compact`) or spread out, each element and member on a line of
its own (`Value.pretty`). Both write scalars alike; strings escape only what they must.
-/

namespace SessionInventory.Json

/-- How a character stands in a string. -/
def escaped (c : Char) : List Char :=
  if c = '"' then ['\\', '"']
  else if c = '\\' then ['\\', '\\']
  else if c = '\x08' then ['\\', 'b']
  else if c = '\x0c' then ['\\', 'f']
  else if c = '\n' then ['\\', 'n']
  else if c = '\r' then ['\\', 'r']
  else if c = '\t' then ['\\', 't']
  else if c < ' ' then
    ['\\', 'u', '0', '0', Nat.digitChar (c.toNat / 16), Nat.digitChar (c.toNat % 16)]
  else [c]

/-- A string between quotes. -/
def writeString (s : String) : List Char :=
  '"' :: s.toList.flatMap escaped ++ ['"']

/-- A whole number. -/
def writeInt : Int → List Char
  | .ofNat n => Nat.toDigits 10 n
  | .negSucc n => '-' :: Nat.toDigits 10 (n + 1)

/-- A number. A float that is not finite, which no text spells, is written as `null`. -/
def Number.write : Number → List Char
  | .whole n _ => writeInt n
  | .float f =>
    if f.isFinite then (Decimal.Layout.document.writeFloat f).toList else ['n', 'u', 'l', 'l']

/-- A truth value. -/
def writeBool : Bool → List Char
  | true => ['t', 'r', 'u', 'e']
  | false => ['f', 'a', 'l', 's', 'e']

mutual

/-- A value on one line. -/
def Value.writeCompact : Value → List Char
  | .null => ['n', 'u', 'l', 'l']
  | .bool b => writeBool b
  | .number n => n.write
  | .string s => writeString s
  | .array [] => ['[', ']']
  | .array (v :: vs) => '[' :: v.writeCompact ++ writeElements vs ++ [']']
  | .object [] => ['{', '}']
  | .object ((k, v) :: ms) =>
    '{' :: writeString k ++ ':' :: v.writeCompact ++ writeMembers ms ++ ['}']

/-- Further elements on the line of the first. -/
def writeElements : List Value → List Char
  | [] => []
  | v :: vs => ',' :: v.writeCompact ++ writeElements vs

/-- Further members on the line of the first. -/
def writeMembers : List (String × Value) → List Char
  | [] => []
  | (k, v) :: ms => ',' :: writeString k ++ ':' :: v.writeCompact ++ writeMembers ms

end

/-- The start of a line at a level of indentation, of two spaces each. -/
def newline (level : Nat) : List Char :=
  '\n' :: List.replicate (2 * level) ' '

mutual

/-- A value spread over lines, standing at a level of indentation. Empty containers stay closed. -/
def Value.writePretty (level : Nat) : Value → List Char
  | .null => ['n', 'u', 'l', 'l']
  | .bool b => writeBool b
  | .number n => n.write
  | .string s => writeString s
  | .array [] => ['[', ']']
  | .array (v :: vs) =>
    '[' :: newline (level + 1) ++ v.writePretty (level + 1) ++ writeElementLines (level + 1) vs ++
      newline level ++ [']']
  | .object [] => ['{', '}']
  | .object ((k, v) :: ms) =>
    '{' :: newline (level + 1) ++ writeString k ++ ':' :: ' ' :: v.writePretty (level + 1) ++
      writeMemberLines (level + 1) ms ++ newline level ++ ['}']

/-- Further elements, each on a line. -/
def writeElementLines (level : Nat) : List Value → List Char
  | [] => []
  | v :: vs => ',' :: newline level ++ v.writePretty level ++ writeElementLines level vs

/-- Further members, each on a line. -/
def writeMemberLines (level : Nat) : List (String × Value) → List Char
  | [] => []
  | (k, v) :: ms =>
    ',' :: newline level ++ writeString k ++ ':' :: ' ' :: v.writePretty level ++
      writeMemberLines level ms

end

/-- The text of a value on one line. -/
def Value.compact (v : Value) : String := String.ofList v.writeCompact

/-- The text of a value spread over lines. -/
def Value.pretty (v : Value) : String := String.ofList (v.writePretty 0)

end SessionInventory.Json
