import SessionInventory.Json.Literal
import SessionInventory.Json.Reader.Basic

/-!
# Reading numbers
-/

namespace SessionInventory.Json

/-- The digits at the front of a text. -/
def digits (text : List Char) : List Char :=
  text.takeWhile Char.isDigit

/-- What follows the digits at the front of a text. -/
def afterDigits (text : List Char) : Tail text :=
  ⟨text.dropWhile Char.isDigit, (List.dropWhile_sublist Char.isDigit).length_le⟩

/-- A digit was asked for and does not stand at the front of a text. -/
def noDigit : List Char → Fault
  | [] => .before .endInValue []
  | text => .on .invalidNumber text

/-- Reads digits, at least one. -/
def someDigits (text : List Char) : Except Fault (List Char × Tail text) :=
  if digits text = [] then .error (noDigit text) else .ok (digits text, afterDigits text)

/-- Reads the part before the point: a zero or digits that do not begin with one. -/
def integerPart : Reader (List Char)
  | '0' :: rest =>
    if digits rest = [] then .ok (['0'], (Tail.whole rest).behind '0')
    else .error (.on .invalidNumber rest)
  | d :: rest =>
    if d.isDigit then .ok (d :: digits rest, (afterDigits rest).behind d)
    else .error (noDigit (d :: rest))
  | [] => .error (noDigit [])

/-- Reads a point and the digits behind it, if there is a point. -/
def fractionPart (text : List Char) : Except Fault (List Char × Tail text) :=
  match text with
  | '.' :: rest =>
    match someDigits rest with
    | .error fault => .error fault
    | .ok (ds, r) => .ok (ds, r.past '.')
  | text => .ok ([], .whole text)

/-- Reads the sign of an exponent, if there is one. -/
def exponentSign (text : List Char) : Bool × Tail text :=
  match text with
  | '+' :: rest => (false, (Tail.whole rest).past '+')
  | '-' :: rest => (true, (Tail.whole rest).past '-')
  | text => (false, .whole text)

/-- Reads an exponent, if there is one. -/
def exponentPart (text : List Char) : Except Fault (Option Exponent × Tail text) :=
  match text with
  | c :: rest =>
    if c = 'e' ∨ c = 'E' then
      let (negative, signed) := exponentSign rest
      match someDigits signed with
      | .error fault => .error fault
      | .ok (ds, r) =>
        .ok (some ⟨negative, ds⟩, ⟨r.1, Nat.le_succ_of_le (Nat.le_trans r.2 signed.2)⟩)
    else .ok (none, .whole (c :: rest))
  | [] => .ok (none, .whole [])

/-- Reads a literal behind its sign. -/
def unsignedLiteral (negative : Bool) : Reader Literal := fun text =>
  match integerPart text with
  | .error fault => .error fault
  | .ok (integer, r) =>
    match fractionPart r.1 with
    | .error fault => .error fault
    | .ok (fraction, s) =>
      match exponentPart s.1 with
      | .error fault => .error fault
      | .ok (exponent, t) =>
        .ok (⟨negative, integer, fraction, exponent⟩,
          ⟨t.1, Nat.lt_of_le_of_lt (Nat.le_trans t.2 s.2) r.2⟩)

/-- Reads a literal. -/
def literal : Reader Literal
  | '-' :: rest =>
    match unsignedLiteral true rest with
    | .error fault => .error fault
    | .ok (l, r) => .ok (l, r.past '-')
  | text => unsignedLiteral false text

/-- Reads a number. -/
def number : Reader Number := fun text =>
  match literal text with
  | .error fault => .error fault
  | .ok (l, r) =>
    match l.value? with
    | some n => .ok (n, r)
    | none => .error ⟨.numberOutOfRange, Utf8.byteCount r.1 + l.undecided⟩

end SessionInventory.Json
