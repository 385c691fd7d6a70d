import SessionInventory.Address.Form
import SessionInventory.Address.Name

/-!
# Hosts

The host of a web address is a name, an IPv4 address in any of its spellings, or an IPv6 address in
brackets; all come out in one normal spelling, names in ASCII. Other schemes take a host as it
stands, apart from the characters that no host has.
-/

namespace SessionInventory.Address

open Digits (number?)

/-- Why an address cannot be read. -/
inductive Error where
  | noScheme
  | emptyHost
  | invalidName
  | invalidCharacter
  | invalidIPv4
  | invalidIPv6
  | invalidPort
  deriving DecidableEq

/-- The wording of an error. -/
def Error.message : Error → String
  | .noScheme => "relative URL without a base"
  | .emptyHost => "empty host"
  | .invalidName => "invalid international domain name"
  | .invalidCharacter => "invalid domain character"
  | .invalidIPv4 => "invalid IPv4 address"
  | .invalidIPv6 => "invalid IPv6 address"
  | .invalidPort => "invalid port number"

/-! ## IPv4 -/

/-- A number of an IPv4 address: decimal, octal behind a `0`, hexadecimal behind `0x`. -/
def ipv4Number? : List Char → Option Nat
  | [] => none
  | '0' :: 'x' :: rest | '0' :: 'X' :: rest => number? 16 rest
  | '0' :: d :: rest => number? 8 (d :: rest)
  | text => number? 10 text

/-- The parts of a name between its dots, without the empty one behind a final dot. -/
def dottedParts (name : List Char) : List (List Char) :=
  let parts := name.splitOn '.'
  if 1 < parts.length ∧ parts.getLast? = some [] then parts.dropLast else parts

/-- Whether a name has to be an IPv4 address: its last part is a number. -/
def endsInNumber (name : List Char) : Bool :=
  match (dottedParts name).getLast? with
  | none => false
  | some last => (last ≠ [] && last.all Char.isDigit) || (ipv4Number? last).isSome

/-- The number of an IPv4 address of at most four parts, of which the last takes all the bytes that
the others leave. -/
def ipv4? (name : List Char) : Option Nat := do
  let parts ← (dottedParts name).mapM ipv4Number?
  let last ← parts.getLast?
  let front := parts.dropLast
  if 3 < front.length ∨ front.any (255 < ·) ∨ Nat.pow 256 (4 - front.length) ≤ last then none
  else some (front.zipIdx.foldl (fun n (part, i) => n + part * Nat.pow 256 (3 - i)) last)

/-- The four decimal parts of an IPv4 address. -/
def writeIPv4 (n : Nat) : List Char :=
  ['.'].intercalate ([3, 2, 1, 0].map fun i => Nat.toDigits 10 (n / Nat.pow 256 i % 256))

/-! ## IPv6 -/

/-- A group of up to four hexadecimal digits. -/
def group? (text : List Char) : Option Nat :=
  if text = [] ∨ 4 < text.length then none else number? 16 text

/-- A part of an IPv4 address at the end of an IPv6 one. -/
def byte? (text : List Char) : Option Nat :=
  if text = [] ∨ (1 < text.length ∧ text.head? = some '0') then none
  else (number? 10 text).filter (· < 256)

/-- The last group of an IPv6 address, which may be an IPv4 address that takes the place of two. -/
def lastGroups? (text : List Char) : Option (List Nat) :=
  match text.splitOn '.' with
  | [_] => (group? text).map ([·])
  | [a, b, c, d] => do
    let a ← byte? a
    let b ← byte? b
    let c ← byte? c
    let d ← byte? d
    some [a * 256 + b, c * 256 + d]
  | _ => none

/-- The groups of a stretch of an IPv6 address; an empty stretch has none. -/
def groups? (text : List Char) : Option (List Nat) :=
  if text = [] then some []
  else
    let parts := text.splitOn ':'
    do
      let front ← parts.dropLast.mapM group?
      let last ← lastGroups? (parts.getLast?.getD [])
      some (front ++ last)

/-- The two stretches around the first `::`. -/
def aroundGap? : List Char → Option (List Char × List Char)
  | ':' :: ':' :: rest => some ([], rest)
  | c :: rest => (aroundGap? rest).map fun (before, behind) => (c :: before, behind)
  | [] => none

/-- The eight groups of an IPv6 address; a `::` stands for zeros, at least one. -/
def ipv6? (text : List Char) : Option (List Nat) :=
  match aroundGap? text with
  | none => (groups? text).filter (·.length = 8)
  | some (before, behind) => do
    if before.contains '.' then none
    else
      let front ← groups? before
      let back ← groups? behind
      if 8 ≤ front.length + back.length then none
      else some (front ++ List.replicate (8 - front.length - back.length) 0 ++ back)

/-- Where the longest run of at least two zeros begins, and its length; the first of equal ones. -/
def longestGap (groups : List Nat) : Option (Nat × Nat) :=
  let runs := (List.range groups.length).map fun i => (i, ((groups.drop i).takeWhile (· = 0)).length)
  let best := runs.foldl (fun (best : Nat × Nat) run => if best.2 < run.2 then run else best) (0, 0)
  if 2 ≤ best.2 then some best else none

/-- Groups with colons between them. -/
def writeGroups (groups : List Nat) : List Char :=
  [':'].intercalate (groups.map (Nat.toDigits 16))

/-- An IPv6 address in brackets, its longest run of zeros left out. -/
def writeIPv6 (groups : List Nat) : List Char :=
  match longestGap groups with
  | none => '[' :: writeGroups groups ++ [']']
  | some (start, length) =>
    '[' :: writeGroups (groups.take start) ++ ':' :: ':' ::
      writeGroups (groups.drop (start + length)) ++ [']']

/-! ## Any host -/

/-- A host in brackets. -/
def bracketed (inside : List Char) : Except Error (List Char) :=
  match inside.getLast? with
  | some ']' =>
    match ipv6? inside.dropLast with
    | some groups => .ok (writeIPv6 groups)
    | none => .error .invalidIPv6
  | _ => .error .invalidIPv6

/-- The host of a web address. -/
def webHost (text : List Char) : Except Error (List Char) :=
  match text with
  | [] => .error .emptyHost
  | '[' :: inside => bracketed inside
  | text =>
    match (Utf8.decode? (percentDecode (Utf8.encode (String.ofList text)))).bind
        fun name => Name.ascii? name.toList with
    | none => .error .invalidName
    | some [] => .error .emptyHost
    | some name =>
      if endsInNumber name then
        match ipv4? name with
        | some n => .ok (writeIPv4 n)
        | none => .error .invalidIPv4
      else .ok name

/-- The host of an address of another scheme. -/
def plainHost (text : List Char) : Except Error (List Char) :=
  match text with
  | '[' :: inside => bracketed inside
  | text =>
    if text.any forbiddenInHost then .error .invalidCharacter
    else .ok (encodeUnless isPlain text)

end SessionInventory.Address
