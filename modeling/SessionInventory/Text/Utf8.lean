/-!
# Text and its UTF-8 bytes

The environment, the command line and the listing service all hand over bytes that need not be
text. `decodeLossy` reads any bytes: what is UTF-8 becomes the characters it stands for, and each
longest piece that begins like a character and does not go on like one becomes a single U+FFFD.
`decode?` reads text only. `encode` is the way back.

* `encode_injective`: different texts have different bytes;
* `decodeFrom_ascii`: a byte below `0x80` always stands for itself, whatever precedes it, so damage
  never crosses an ASCII character.
-/

namespace SessionInventory.Utf8

/-- U+FFFD, which stands for a piece that is not UTF-8. -/
def replacement : Char := '\uFFFD'

/-- A character whose first bytes have been read: the bits they carry, how many bytes are still
missing, and the range in which the next of them must lie. -/
structure Pending where
  bits : Nat
  missing : Nat
  lowest : UInt8
  highest : UInt8
  notAscii : 0x80 ≤ lowest

/-- The character that a byte from `0x80` up begins, if it can begin one. The ranges of the second
byte leave out longer spellings than needed, surrogates, and numbers beyond U+10FFFF. -/
def lead? (b : UInt8) : Option Pending :=
  if b < 0xC2 then none
  else if b < 0xE0 then some ⟨b.toNat - 0xC0, 1, 0x80, 0xBF, by decide⟩
  else if b = 0xE0 then some ⟨0x0, 2, 0xA0, 0xBF, by decide⟩
  else if b = 0xED then some ⟨0xD, 2, 0x80, 0x9F, by decide⟩
  else if b < 0xF0 then some ⟨b.toNat - 0xE0, 2, 0x80, 0xBF, by decide⟩
  else if b = 0xF0 then some ⟨0x0, 3, 0x90, 0xBF, by decide⟩
  else if b < 0xF4 then some ⟨b.toNat - 0xF0, 3, 0x80, 0xBF, by decide⟩
  else if b = 0xF4 then some ⟨0x4, 3, 0x80, 0x8F, by decide⟩
  else none

/-- Reads a byte where a character begins. -/
def first (b : UInt8) : List Char × Option Pending :=
  if b < 0x80 then ([Char.ofNat b.toNat], none)
  else match lead? b with
    | some p => ([], some p)
    | none => ([replacement], none)

/-- Reads a byte. One that does not continue the character under way ends it as a replacement and
is read again as the first of the next. -/
def step : Option Pending → UInt8 → List Char × Option Pending
  | none, b => first b
  | some p, b =>
    if p.lowest ≤ b ∧ b ≤ p.highest then
      let bits := p.bits * 64 + (b.toNat - 0x80)
      if p.missing ≤ 1 then ([Char.ofNat bits], none)
      else ([], some ⟨bits, p.missing - 1, 0x80, 0xBF, by decide⟩)
    else (replacement :: (first b).1, (first b).2)

/-- The characters that bytes stand for, read on from a character under way. -/
def decodeFrom : Option Pending → List UInt8 → List Char
  | none, [] => []
  | some _, [] => [replacement]
  | state, b :: bs => (step state b).1 ++ decodeFrom (step state b).2 bs

/-- The text that bytes stand for, with U+FFFD for every piece that is not UTF-8. -/
def decodeLossy (bytes : List UInt8) : String :=
  String.ofList (decodeFrom none bytes)

/-- The bytes of a text. -/
def encode (text : String) : List UInt8 :=
  text.toByteArray.data.toList

/-- The text that bytes are the encoding of, if they are one. -/
def decode? (bytes : List UInt8) : Option String :=
  let text := decodeLossy bytes
  if encode text = bytes then some text else none

/-- The longest front of bytes that is text, and the bytes behind it. -/
def splitText (bytes : List UInt8) : String × List UInt8 :=
  let front? := (List.range (bytes.length + 1)).reverse.findSome? fun n =>
    (decode? (bytes.take n)).map fun text => (text, bytes.drop n)
  front?.getD ("", bytes)

/-- How many bytes a text given by its characters takes. -/
def byteCount (text : List Char) : Nat :=
  text.foldr (fun c n => c.utf8Size + n) 0

@[simp] theorem byteCount_nil : byteCount [] = 0 := rfl

@[simp] theorem byteCount_cons (c : Char) (text : List Char) :
    byteCount (c :: text) = c.utf8Size + byteCount text := rfl

/-- A text parted behind a number of bytes, unless that is within a character or behind the end. -/
def splitBytes? : Nat → List Char → Option (List Char × List Char)
  | 0, text => some ([], text)
  | _ + 1, [] => none
  | n + 1, c :: rest =>
    if c.utf8Size ≤ n + 1 then
      (splitBytes? (n + 1 - c.utf8Size) rest).map fun (front, back) => (c :: front, back)
    else none

/-- A text can be parted between any two characters. -/
theorem splitBytes?_append (front back : List Char) :
    splitBytes? (byteCount front) (front ++ back) = some (front, back) := by
  induction front with
  | nil => simp [splitBytes?]
  | cons c rest ih =>
    have hc := c.utf8Size_pos
    have hn : byteCount (c :: rest) = byteCount (c :: rest) - 1 + 1 := by
      rw [byteCount_cons]
      omega
    have hle : c.utf8Size ≤ byteCount (c :: rest) - 1 + 1 := by
      rw [← hn, byteCount_cons]
      exact Nat.le_add_right _ _
    have hr : byteCount (c :: rest) - 1 + 1 - c.utf8Size = byteCount rest := by
      rw [← hn, byteCount_cons]
      exact Nat.add_sub_cancel_left _ _
    rw [hn, List.cons_append, splitBytes?, if_pos hle, hr, ih]
    rfl

/-- Different texts have different bytes. -/
theorem encode_injective {a b : String} (h : encode a = encode b) : a = b := by
  have h' : a.toByteArray.data = b.toByteArray.data := Array.toList_inj.1 h
  exact String.toByteArray_inj.1 (ByteArray.ext h')

theorem toNat_ofNat {n : Nat} (h : n.isValidChar) : (Char.ofNat n).toNat = n := by
  rw [Char.ofNat, dif_pos h]
  rfl

theorem first_ascii {b : UInt8} (h : b < 0x80) : first b = ([Char.ofNat b.toNat], none) := by
  simp [first, h]

/-- A byte below `0x80` stands for itself: it ends a character under way, and nothing is pending
after it. -/
theorem decodeFrom_ascii (state : Option Pending) {b : UInt8} (h : b < 0x80) (bs : List UInt8) :
    decodeFrom state (b :: bs) = decodeFrom state [] ++ Char.ofNat b.toNat :: decodeFrom none bs := by
  cases state with
  | none => simp [decodeFrom, step, first_ascii h]
  | some p =>
    have hb : ¬ p.lowest ≤ b := fun hle => by
      have := p.notAscii
      simp only [UInt8.le_iff_toNat_le, UInt8.lt_iff_toNat_lt] at *
      omega
    simp [decodeFrom, step, first_ascii h, hb]

end SessionInventory.Utf8
