import SessionInventory.Json.Reader.Basic

/-!
# Reading strings

A string runs to its closing quote. Control characters are refused, and the sixteen-bit units that
are written by number must form characters: the first half of a pair is followed by the second, and
a second half follows a first.
-/

namespace SessionInventory.Json

/-- The value of a hexadecimal digit, in either case. -/
def hexDigit? (c : Char) : Option Nat :=
  if '0' ≤ c ∧ c ≤ '9' then some (c.toNat - '0'.toNat)
  else if 'a' ≤ c ∧ c ≤ 'f' then some (c.toNat - 'a'.toNat + 10)
  else if 'A' ≤ c ∧ c ≤ 'F' then some (c.toNat - 'A'.toNat + 10)
  else none

/-- Four hexadecimal digits were asked for: four bytes are read as such if there are four. -/
def notFourDigits (text : List Char) : Fault :=
  if Utf8.byteCount text < 4 then ⟨.endInString, 0⟩
  else ⟨.invalidEscape, Utf8.byteCount text - 4⟩

/-- Reads a unit of sixteen bits, written as four hexadecimal digits. -/
def codeUnit : Reader Nat
  | a :: b :: c :: d :: rest =>
    match hexDigit? a, hexDigit? b, hexDigit? c, hexDigit? d with
    | some a, some b, some c, some d =>
      .ok (((a * 16 + b) * 16 + c) * 16 + d, ⟨rest, by simp only [List.length_cons]; omega⟩)
    | _, _, _, _ => .error (notFourDigits (a :: b :: c :: d :: rest))
  | text => .error (notFourDigits text)

/-- Whether a unit is the first half of a pair. -/
def isFirstHalf (unit : Nat) : Bool := 0xD800 ≤ unit && unit ≤ 0xDBFF

/-- Whether a unit is the second half of a pair. -/
def isSecondHalf (unit : Nat) : Bool := 0xDC00 ≤ unit && unit ≤ 0xDFFF

/-- The character that a pair of units stands for. -/
def joinHalves (first second : Nat) : Char :=
  Char.ofNat (0x10000 + (first - 0xD800) * 0x400 + (second - 0xDC00))

/-- Reads the second half of a pair, with the `\u` before it. -/
def secondHalf : Reader Nat
  | [] => .error (.before .endInString [])
  | ['\\'] => .error (.before .endInString [])
  | '\\' :: 'u' :: rest =>
    match codeUnit rest with
    | .error fault => .error fault
    | .ok (unit, r) =>
      if isSecondHalf unit then .ok (unit, r.within (by simp only [List.length_cons]; omega))
      else .error (.before .loneSurrogate r.1)
  | '\\' :: rest => .error (.on .unfinishedSurrogate rest)
  | text => .error (.on .unfinishedSurrogate text)

/-- Reads a character written by number, behind the `\u`. -/
def numbered : Reader Char := fun text =>
  match codeUnit text with
  | .error fault => .error fault
  | .ok (unit, r) =>
    if isSecondHalf unit then .error (.before .loneSurrogate r.1)
    else if isFirstHalf unit then
      match secondHalf r.1 with
      | .error fault => .error fault
      | .ok (second, s) => .ok (joinHalves unit second, s.within (Nat.le_of_lt r.2))
    else .ok (Char.ofNat unit, r)

/-- The character that a letter behind a backslash stands for. -/
def shortEscape? (c : Char) : Option Char :=
  if c = '"' ∨ c = '\\' ∨ c = '/' then some c
  else if c = 'b' then some '\x08'
  else if c = 'f' then some '\x0c'
  else if c = 'n' then some '\n'
  else if c = 'r' then some '\r'
  else if c = 't' then some '\t'
  else none

/-- Reads an escape behind its backslash. -/
def escape : Reader Char
  | [] => .error (.before .endInString [])
  | c :: rest =>
    if c = 'u' then
      match numbered rest with
      | .error fault => .error fault
      | .ok (d, r) => .ok (d, r.past c)
    else match shortEscape? c with
      | some d => .ok (d, (Tail.whole rest).behind c)
      | none => .error (.on .invalidEscape (c :: rest))

/-- Reads one character of a string as it is spelled. -/
def stringChar : Reader Char
  | [] => .error (.before .endInString [])
  | c :: rest =>
    if c = '\\' then
      match escape rest with
      | .error fault => .error fault
      | .ok (d, r) => .ok (d, r.past c)
    else if c < ' ' then .error (.on .controlCharacter (c :: rest))
    else .ok (c, (Tail.whole rest).behind c)

/-- Reads the characters of a string up to and with its closing quote. -/
def stringChars (text : List Char) : Except Fault (List Char × Rest text) :=
  match text with
  | '"' :: rest => .ok ([], (Tail.whole rest).behind '"')
  | text =>
    match stringChar text with
    | .error fault => .error fault
    | .ok (c, ⟨rest, h⟩) =>
      match stringChars rest with
      | .error fault => .error fault
      | .ok (cs, r) => .ok (c :: cs, r.within (Nat.le_of_lt h))
termination_by text.length

/-- Reads a string behind its opening quote. -/
def string : Reader String := fun text =>
  match stringChars text with
  | .error fault => .error fault
  | .ok (cs, r) => .ok (String.ofList cs, r)

end SessionInventory.Json
