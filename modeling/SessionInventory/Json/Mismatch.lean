import SessionInventory.Decimal
import SessionInventory.Json.Value
import SessionInventory.Text.Quoted

/-!
# Values of the wrong shape

A value that was read well may still not be what was asked for. `Mismatch` says what was found and
what was expected instead; `Mismatch.message` is its wording.
-/

namespace SessionInventory.Json

/-- What a value turned out to be, with its content if that is named in messages. -/
inductive Found where
  | null
  | bool (value : Bool)
  | number (value : Number)
  | string (value : String)
  | array
  | object

/-- What a value is, as messages name it. -/
def Value.found : Value → Found
  | .null => .null
  | .bool b => .bool b
  | .number n => .number n
  | .string s => .string s
  | .array _ => .array
  | .object _ => .object

/-- The wording of what was found. -/
def Found.description : Found → String
  | .null => "null"
  | .bool b => "boolean `" ++ (if b then "true" else "false") ++ "`"
  | .number (.whole n _) => "integer `" ++ toString n ++ "`"
  | .number (.float f) => "floating point `" ++ Decimal.Layout.document.writeFloat f ++ "`"
  | .string s => "string " ++ Quoted.quote s
  | .array => "sequence"
  | .object => "map"

/-- What can be asked of a value. -/
inductive Expected where
  | string
  | port
  | session
  | array
  | object
  /-- An array with one element for each part of a session. -/
  | sessionParts
  /-- An array with no more elements than that. -/
  | noMoreParts
  deriving DecidableEq

/-- The wording of what was expected. -/
def Expected.description : Expected → String
  | .string => "a string"
  | .port => "u16"
  | .session => "struct Session"
  | .array => "a sequence"
  | .object => "a map"
  | .sessionParts => "struct Session with 9 elements"
  | .noMoreParts => "fewer elements in array"

/-- Why a value is not what was asked for. -/
inductive Mismatch where
  /-- It is of another kind. -/
  | kind (found : Found) (expected : Expected)
  /-- It is a whole number, but not in the range. -/
  | range (value : Int) (expected : Expected)
  /-- It is an array, but of another length. -/
  | length (found : Nat) (expected : Expected)

/-- The wording of a mismatch. -/
def Mismatch.message : Mismatch → String
  | .kind found expected =>
    "invalid type: " ++ found.description ++ ", expected " ++ expected.description
  | .range value expected =>
    "invalid value: integer `" ++ toString value ++ "`, expected " ++ expected.description
  | .length found expected =>
    "invalid length " ++ toString found ++ ", expected " ++ expected.description

end SessionInventory.Json
