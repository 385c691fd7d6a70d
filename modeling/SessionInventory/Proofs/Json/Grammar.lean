import SessionInventory.Json.Literal

/-!
# The grammar of JSON

What a text spells, said without a reader: every relation here takes a whole text, put together from
its parts. A value is spelled along with how deep containers stand in one another in its text
(`SpellsValue`), which may be deeper than in the value, since of two members with one name only the
last counts.

A document is an object with blanks around it whose containers are at most 127 deep
(`SpellsDocument`).
-/

namespace SessionInventory.Json

/-! ## Blanks and numbers -/

/-- What may stand between tokens: spaces, tabs and ends of lines. -/
def Blank (text : List Char) : Prop :=
  ∀ c ∈ text, c = ' ' ∨ c = '\t' ∨ c = '\n' ∨ c = '\r'

/-- Digits, at least one. -/
def Digits (text : List Char) : Prop :=
  text ≠ [] ∧ ∀ c ∈ text, c.isDigit

/-- The part of a number before the point: digits, without a zero in front of others. -/
inductive SpellsInteger : List Char → Prop where
  | zero : SpellsInteger ['0']
  | digits {text} (h : Digits text) (hz : text.head? ≠ some '0') : SpellsInteger text

/-- A fraction, by its digits. -/
inductive SpellsFraction : List Char → List Char → Prop where
  | absent : SpellsFraction [] []
  | present {ds} (h : Digits ds) : SpellsFraction ('.' :: ds) ds

/-- An exponent. -/
inductive SpellsExponent : List Char → Option Exponent → Prop where
  | absent : SpellsExponent [] none
  | plain {e ds} (he : e = 'e' ∨ e = 'E') (h : Digits ds) : SpellsExponent (e :: ds) (some ⟨false, ds⟩)
  | plus {e ds} (he : e = 'e' ∨ e = 'E') (h : Digits ds) :
    SpellsExponent (e :: '+' :: ds) (some ⟨false, ds⟩)
  | minus {e ds} (he : e = 'e' ∨ e = 'E') (h : Digits ds) :
    SpellsExponent (e :: '-' :: ds) (some ⟨true, ds⟩)

/-- The literal of a number. -/
inductive SpellsLiteral : List Char → Literal → Prop where
  | unsigned {integer f fraction e exponent} (hi : SpellsInteger integer)
    (hf : SpellsFraction f fraction) (he : SpellsExponent e exponent) :
    SpellsLiteral (integer ++ f ++ e) ⟨false, integer, fraction, exponent⟩
  | negative {integer f fraction e exponent} (hi : SpellsInteger integer)
    (hf : SpellsFraction f fraction) (he : SpellsExponent e exponent) :
    SpellsLiteral ('-' :: (integer ++ f ++ e)) ⟨true, integer, fraction, exponent⟩

/-! ## Strings -/

/-- A hexadecimal digit of either case, and its value. -/
def IsHexDigit (c : Char) (n : Nat) : Prop :=
  n < 16 ∧ (c = n.digitChar ∨ c = n.digitChar.toUpper)

/-- Four hexadecimal digits. -/
inductive SpellsUnit : List Char → Nat → Prop where
  | mk {a b c d i j k l} (ha : IsHexDigit a i) (hb : IsHexDigit b j) (hc : IsHexDigit c k)
    (hd : IsHexDigit d l) : SpellsUnit [a, b, c, d] (((i * 16 + j) * 16 + k) * 16 + l)

/-- The letters that may follow a backslash, with what they stand for. -/
def shortEscapes : List (Char × Char) :=
  [('"', '"'), ('\\', '\\'), ('/', '/'), ('b', '\x08'), ('f', '\x0c'), ('n', '\n'), ('r', '\r'),
    ('t', '\t')]

/-- A character of a string. A number stands for the character that has it, so halves of a pair
only count together. -/
inductive SpellsChar : List Char → Char → Prop where
  | plain {c} (hq : c ≠ '"') (hb : c ≠ '\\') (hc : ' ' ≤ c) : SpellsChar [c] c
  | short {l c} (h : (l, c) ∈ shortEscapes) : SpellsChar ['\\', l] c
  | unit {t n} {c : Char} (h : SpellsUnit t n) (hc : c.toNat = n) : SpellsChar ('\\' :: 'u' :: t) c
  | pair {t u first second} {c : Char} (ht : SpellsUnit t first) (hu : SpellsUnit u second)
    (hf : 0xD800 ≤ first ∧ first < 0xDC00) (hs : 0xDC00 ≤ second ∧ second < 0xE000)
    (hc : c.toNat = 0x10000 + (first - 0xD800) * 0x400 + (second - 0xDC00)) :
    SpellsChar ('\\' :: 'u' :: t ++ '\\' :: 'u' :: u) c

/-- The characters of a string. -/
inductive SpellsChars : List Char → List Char → Prop where
  | nil : SpellsChars [] []
  | cons {t ts c cs} (h : SpellsChar t c) (hs : SpellsChars ts cs) : SpellsChars (t ++ ts) (c :: cs)

/-- A string between its quotes. -/
inductive SpellsString : List Char → String → Prop where
  | mk {t cs} (h : SpellsChars t cs) : SpellsString ('"' :: t ++ ['"']) (String.ofList cs)

/-! ## Values -/

section

variable {α : Type} (item : List Char → Nat → α → Prop)

/-- Items, at least one, with commas between them and blanks around them; they are as deep as the
deepest of them. -/
inductive Listed : List Char → Nat → List α → Prop where
  | one {b t a d x} (hb : Blank b) (hx : item t d x) (ha : Blank a) : Listed (b ++ t ++ a) d [x]
  | more {b t a d x ts e xs} (hb : Blank b) (hx : item t d x) (ha : Blank a) (hs : Listed ts e xs) :
    Listed (b ++ t ++ a ++ ',' :: ts) (max d e) (x :: xs)

/-- A member of an object. -/
inductive SpellsMember : List Char → Nat → String × α → Prop where
  | mk {n name b a t d x} (hn : SpellsString n name) (hb : Blank b) (ha : Blank a) (hx : item t d x) :
    SpellsMember (n ++ b ++ ':' :: (a ++ t)) d (name, x)

end

/-- A value, with how deep containers stand in one another in its text. The members of an object form
a table in key order, in which the last of repeated names counts. -/
inductive SpellsValue : List Char → Nat → Value → Prop where
  | null : SpellsValue ['n', 'u', 'l', 'l'] 0 .null
  | true : SpellsValue ['t', 'r', 'u', 'e'] 0 (.bool true)
  | false : SpellsValue ['f', 'a', 'l', 's', 'e'] 0 (.bool false)
  | number {t l n} (h : SpellsLiteral t l) (hv : l.value? = some n) : SpellsValue t 0 (.number n)
  | string {t s} (h : SpellsString t s) : SpellsValue t 0 (.string s)
  | emptyArray {b} (hb : Blank b) : SpellsValue ('[' :: b ++ [']']) 1 (.array [])
  | array {t d vs} (h : Listed SpellsValue t d vs) :
      SpellsValue ('[' :: t ++ [']']) (d + 1) (.array vs)
  | emptyObject {b} (hb : Blank b) : SpellsValue ('{' :: b ++ ['}']) 1 (.object [])
  | object {t d ms} {members : Table Value} (h : Listed (SpellsMember SpellsValue) t d ms)
    (hs : members.Sorted) (hf : ∀ name, members.find? name = ms.reverse.lookup name) :
    SpellsValue ('{' :: t ++ ['}']) (d + 1) (.object members)

/-- An object with blanks around it, in which containers are at most 127 deep. -/
def SpellsDocument (text : List Char) (members : Table Value) : Prop :=
  ∃ before t after d, Blank before ∧ SpellsValue t d (.object members) ∧ d ≤ 127 ∧ Blank after ∧
    text = before ++ t ++ after

end SessionInventory.Json
