import SessionInventory.Text.Utf8

/-!
# Forms of addresses

What follows the scheme of an address is read in one of three ways, and the scheme says in which. Each
part of an address admits some characters as they are; of any other character each byte is written as
`%` and two digits.
-/

namespace SessionInventory.Address

/-- How the part behind a scheme is to be read. -/
inductive Form where
  /-- A host must follow, however many slashes come first. -/
  | web (defaultPort : Nat)
  /-- A path, mostly without a host. -/
  | file
  /-- A host follows exactly two slashes. -/
  | other
  deriving DecidableEq

namespace Form

/-- The form of the addresses of a scheme. -/
def ofScheme (scheme : String) : Form :=
  if scheme = "http" ∨ scheme = "ws" then .web 80
  else if scheme = "https" ∨ scheme = "wss" then .web 443
  else if scheme = "ftp" then .web 21
  else if scheme = "file" then .file
  else .other

/-- The port that goes without saying. -/
def defaultPort? : Form → Option Nat
  | web port => some port
  | file | other => none

/-- Whether a character ends a segment of the path. -/
def isSlash (form : Form) (c : Char) : Bool :=
  c = '/' || (c = '\\' && form ≠ other)

/-- Whether a character ends the part that names host and port. -/
def endsAuthority (form : Form) (c : Char) : Bool :=
  form.isSlash c || c = '?' || c = '#'

end Form

/-- The part of a text before the first of some characters, and the rest. -/
def cut (stops : Char → Bool) (text : List Char) : List Char × List Char :=
  (text.takeWhile (!stops ·), text.dropWhile (!stops ·))

/-! ## Percent-encoding -/

/-- The bytes of a character, each as `%` and two hexadecimal digits. -/
def percent (c : Char) : List Char :=
  (Utf8.encode (String.singleton c)).flatMap fun b =>
    ['%', (Nat.digitChar (b.toNat / 16)).toUpper, (Nat.digitChar (b.toNat % 16)).toUpper]

/-- Writes the characters that a part does not admit by their bytes. -/
def encodeUnless (admitted : Char → Bool) (text : List Char) : List Char :=
  text.flatMap fun c => if admitted c then [c] else percent c

/-- The printable characters of ASCII and the space. -/
def isPlain (c : Char) : Bool := ' ' ≤ c && c ≤ '~'

/-- What a fragment admits. -/
def inFragment (c : Char) : Bool := isPlain c && !" \"<>`".toList.contains c

/-- What the query of a web address admits. -/
def inWebQuery (c : Char) : Bool := isPlain c && !" \"#<>'".toList.contains c

/-- What any other query admits. -/
def inQuery (c : Char) : Bool := isPlain c && !" \"#<>".toList.contains c

/-- What a segment of a path admits. -/
def inPath (c : Char) : Bool := inFragment c && !"#?\x7b\x7d".toList.contains c

/-- What credentials admit. -/
def inCredentials (c : Char) : Bool := inPath c && !"/:;=@[\\]^|".toList.contains c

/-- The value of a hexadecimal digit, in either case. -/
def nibble? (b : UInt8) : Option UInt8 :=
  if 0x30 ≤ b ∧ b ≤ 0x39 then some (b - 0x30)
  else if 0x61 ≤ b ∧ b ≤ 0x66 then some (b - 0x61 + 10)
  else if 0x41 ≤ b ∧ b ≤ 0x46 then some (b - 0x41 + 10)
  else none

/-- The bytes that percent-encoded bytes stand for; a `%` without two digits stands for itself. -/
def percentDecode : List UInt8 → List UInt8
  | 0x25 :: a :: b :: rest =>
    match nibble? a, nibble? b with
    | some high, some low => (high * 16 + low) :: percentDecode rest
    | _, _ => 0x25 :: percentDecode (a :: b :: rest)
  | b :: rest => b :: percentDecode rest
  | [] => []

end SessionInventory.Address
