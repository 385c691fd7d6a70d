import SessionInventory.Json.Mismatch

/-!
# Texts that are no JSON

`Flaw` lists what can be wrong with a text and `Position` says where, by line and by column in
bytes. While a text is being read the place is kept as the number of bytes still unread (`Fault`);
`Fault.within` turns it into a position of the whole text.
-/

namespace SessionInventory.Json

/-- What is wrong with a text. -/
inductive Flaw where
  | endInValue
  | endInString
  | endInArray
  | endInObject
  | expectedValue
  | expectedKeyword
  | expectedColon
  | expectedArrayEnd
  | expectedObjectEnd
  | keyNotString
  | trailingComma
  | trailingCharacters
  | invalidNumber
  | numberOutOfRange
  | invalidEscape
  | controlCharacter
  | loneSurrogate
  | unfinishedSurrogate
  | tooDeep
  /-- The text is sound, but of another kind than asked for. -/
  | mismatch (mismatch : Mismatch)

/-- The wording of a flaw. -/
def Flaw.message : Flaw → String
  | .endInValue => "EOF while parsing a value"
  | .endInString => "EOF while parsing a string"
  | .endInArray => "EOF while parsing a list"
  | .endInObject => "EOF while parsing an object"
  | .expectedValue => "expected value"
  | .expectedKeyword => "expected ident"
  | .expectedColon => "expected `:`"
  | .expectedArrayEnd => "expected `,` or `]`"
  | .expectedObjectEnd => "expected `,` or `\x7d`"
  | .keyNotString => "key must be a string"
  | .trailingComma => "trailing comma"
  | .trailingCharacters => "trailing characters"
  | .invalidNumber => "invalid number"
  | .numberOutOfRange => "number out of range"
  | .invalidEscape => "invalid escape"
  | .controlCharacter => "control character (\\u0000-\\u001F) found while parsing a string"
  | .loneSurrogate => "lone leading surrogate in hex escape"
  | .unfinishedSurrogate => "unexpected end of hex escape"
  | .tooDeep => "recursion limit exceeded"
  | .mismatch m => m.message

/-- A place in a text: the line, from one, and the bytes of it that lie before the place. -/
structure Position where
  line : Nat
  column : Nat
  deriving DecidableEq

/-- The place behind the given bytes. -/
def Position.after (bytes : List UInt8) : Position where
  line := bytes.count 0x0A + 1
  column := (bytes.reverse.takeWhile (· ≠ 0x0A)).length

/-- What is wrong with a text, and where. -/
structure ReadError where
  flaw : Flaw
  position : Position

/-- The wording of a reading error. -/
def ReadError.message (e : ReadError) : String :=
  e.flaw.message ++ " at line " ++ toString e.position.line ++
    " column " ++ toString e.position.column

/-- A flaw met while reading, with how many bytes of the text lie behind it. -/
structure Fault where
  flaw : Flaw
  unread : Nat

/-- A flaw that shows when everything before `rest` has been read. -/
def Fault.before (flaw : Flaw) (rest : List Char) : Fault :=
  ⟨flaw, Utf8.byteCount rest⟩

/-- A flaw that the next byte of `rest` shows, or the end of the text if there is none. -/
def Fault.on (flaw : Flaw) (rest : List Char) : Fault :=
  ⟨flaw, Utf8.byteCount rest - 1⟩

/-- Where a fault lies in the whole text. -/
def Fault.within (fault : Fault) (text : String) : ReadError :=
  let bytes := Utf8.encode text
  ⟨fault.flaw, .after (bytes.take (bytes.length - fault.unread))⟩

/-- Why a text gives no value of the shape asked for. -/
inductive Error where
  | unreadable (e : ReadError)
  | mismatched (m : Mismatch)

/-- The wording of an error: a mismatch has no position. -/
def Error.message : Error → String
  | .unreadable e => e.message
  | .mismatched m => m.message

end SessionInventory.Json
