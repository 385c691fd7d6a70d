import SessionInventory.Address.Form
import SessionInventory.Address.Host

/-!
# Authorities

The part of an address between its scheme and its path says where the address leads, and perhaps who
asks: `user:password@host:port`.
-/

namespace SessionInventory.Address

/-- Who asks, as it is sent. -/
structure Credentials where
  username : String
  password : Option String
  deriving DecidableEq

/-- Where an address leads. User and password are percent-encoded. -/
structure Authority where
  username : String
  password : Option String
  host : String
  /-- The port, unless it is the default of the scheme. -/
  port : Option Nat
  deriving DecidableEq

namespace Authority

open Digits (number?)

/-- A host by itself. -/
def ofHost (host : List Char) : Authority := ⟨"", none, String.ofList host, none⟩

/-- Host and port. -/
def place (a : Authority) : String :=
  a.host ++ (a.port.map fun n => ":" ++ toString n).getD ""

/-- User and password, with what separates them from the host. -/
def asker (a : Authority) : String :=
  if a.username = "" ∧ a.password = none then ""
  else a.username ++ (a.password.map (":" ++ ·)).getD "" ++ "@"

/-- An authority written out. -/
def text (a : Authority) : String := a.asker ++ a.place

/-- The text that a percent-encoded text stands for. -/
def decoded? (text : String) : Option String :=
  Utf8.decode? (percentDecode (Utf8.encode text))

/-- Who asks, unless that is nobody or a user whose name is no text. A password that is no text does
not count. -/
def credentials? (a : Authority) : Option Credentials :=
  match decoded? a.username, a.password.bind decoded? with
  | none, _ | some "", none => none
  | some username, password => some ⟨username, password⟩

/-- The host and the port alone, if it is known who asks. -/
def withoutCredentials (a : Authority) : Authority :=
  if a.credentials?.isSome then { a with username := "", password := none } else a

/-- What stands in front of the last `@` of a text, if there is one, and what follows. -/
def splitAsker (text : List Char) : Option (List Char) × List Char :=
  let place := (text.reverse.takeWhile (· ≠ '@')).reverse
  if place = text then (none, text)
  else (some (text.take (text.length - place.length - 1)), place)

/-- User and password apart: they part at the first colon, and an empty password is none. -/
def splitPassword (asker : List Char) : String × Option String :=
  let (username, rest) := cut (· = ':') asker
  let password := rest.drop 1
  let write (text : List Char) : String := String.ofList (encodeUnless inCredentials text)
  (write username, if password = [] then none else some (write password))

/-- Host and port apart: they part at the first colon outside brackets. -/
def splitPort : (inBrackets : Bool) → List Char → List Char × Option (List Char)
  | _, [] => ([], none)
  | inBrackets, c :: rest =>
    if c = ':' ∧ ¬inBrackets then ([], some rest)
    else
      let within := if c = '[' then true else if c = ']' then false else inBrackets
      let (host, port) := splitPort within rest
      (c :: host, port)

/-- The port at the beginning of a text, where none at all is the default, and what follows it: the
end, or a backslash, with which the path begins. -/
def readPort (default : Option Nat) (text : List Char) :
    Except Error (Option Nat × List Char) :=
  let (digits, rest) := cut (!Char.isDigit ·) text
  if rest.head?.any (· ≠ '\\') then .error .invalidPort
  else match digits, number? 10 digits with
    | [], _ | _, none => .ok (none, rest)
    | _, some n =>
      if 0x10000 ≤ n then .error .invalidPort
      else .ok (if default = some n then none else some n, rest)

/-- The host of an address of a form. -/
def readHost : Form → List Char → Except Error (List Char)
  | .web _ | .file => webHost
  | .other => plainHost

/-- Reads an authority at the beginning of a text, with what follows it. -/
def read (form : Form) (text : List Char) : Except Error (Authority × List Char) :=
  let (authority, rest) := cut form.endsAuthority text
  let (asker, place) := splitAsker authority
  if asker = some [] ∧ place = [] ∧ rest ≠ [] then .error .emptyHost
  else
    let (username, password) := splitPassword (asker.getD [])
    let (hostText, portText) := splitPort false place
    match readHost form hostText with
    | .error e => .error e
    | .ok host =>
      if host = [] ∧ portText ≠ none then .error .emptyHost
      else match readPort form.defaultPort? (portText.getD []) with
        | .error e => .error e
        | .ok (port, pathText) =>
          let a : Authority := ⟨username, password, String.ofList host, port⟩
          if host = [] ∧ a.asker ≠ "" then .error .emptyHost
          else .ok (a, pathText ++ rest)

end Authority

end SessionInventory.Address
