import SessionInventory.Text.Classes
import SessionInventory.Trail

/-!
# What goes over the wire

A request is a few lines of text; it asks for the connection to be closed behind the answer, so that
all bytes that come back are the answer. `Reply.ofBytes` takes it apart into its status, its header
fields and its body, which is sent in one piece, in pieces that each tell their size, or up to the end.
An answer that breaks off before its body is none; one that breaks off within has failed.
-/

namespace SessionInventory

/-! ## Base 64 -/

namespace Base64

/-- The character for a number below sixty-four. -/
def digit (n : Nat) : Char :=
  if n < 26 then Char.ofNat ('A'.toNat + n)
  else if n < 52 then Char.ofNat ('a'.toNat + (n - 26))
  else if n < 62 then Char.ofNat ('0'.toNat + (n - 52))
  else if n = 62 then '+'
  else '/'

/-- The first of the characters for three bytes, given by the number that the bytes make up. -/
def digits (count n : Nat) : List Char :=
  (List.range count).map fun i => digit (n / Nat.pow 64 (3 - i) % 64)

/-- The characters for bytes. -/
def encode : List UInt8 → List Char
  | a :: b :: c :: rest => digits 4 (a.toNat * 0x10000 + b.toNat * 0x100 + c.toNat) ++ encode rest
  | [a, b] => digits 3 (a.toNat * 0x10000 + b.toNat * 0x100) ++ ['=']
  | [a] => digits 2 (a.toNat * 0x10000) ++ ['=', '=']
  | [] => []

example : encode [0x66, 0x6F, 0x6F, 0x62] = "Zm9vYg==".toList := by decide +kernel

end Base64

/-! ## Requests -/

/-- The first line of the request for an address. -/
def Address.requestLine (a : Address) : String :=
  "GET " ++ a.target ++ " HTTP/1.1"

/-- The line that says who asks. -/
def Address.Credentials.headerLine (c : Credentials) : String :=
  "authorization: Basic " ++
    String.ofList (Base64.encode (Utf8.encode (c.username ++ ":" ++ c.password.getD "")))

/-- The text of a request. -/
def Trail.requestText (trail : Trail) : String :=
  let ⟨address, credentials⟩ := trail.destination
  let place := (address.authority.map (·.place)).getD ""
  let lines := [address.requestLine, "host: " ++ place, "accept: application/json",
    "connection: close"] ++ (credentials.map (·.headerLine)).toList ++
    (trail.referrer.map ("referer: " ++ ·)).toList ++ [""]
  String.join (lines.map (· ++ "\r\n"))

namespace Wire

/-- The bytes before the first occurrence of a mark, and those behind it. -/
def splitAtMark (mark : List UInt8) : List UInt8 → Option (List UInt8 × List UInt8)
  | [] => if mark = [] then some ([], []) else none
  | b :: rest =>
    if mark.isPrefixOf (b :: rest) then some ([], (b :: rest).drop mark.length)
    else (splitAtMark mark rest).map fun (before, behind) => (b :: before, behind)

theorem length_le_of_splitAtMark {mark bytes before behind : List UInt8}
    (h : splitAtMark mark bytes = some (before, behind)) : behind.length ≤ bytes.length := by
  induction bytes generalizing before with
  | nil =>
    simp only [splitAtMark] at h
    split at h <;> simp_all
  | cons b rest ih =>
    simp only [splitAtMark] at h
    split at h
    · simp only [Option.some.injEq, Prod.mk.injEq] at h
      rw [← h.2, List.length_drop]
      exact Nat.sub_le _ _
    · simp only [Option.map_eq_some_iff, Prod.mk.injEq, Prod.exists] at h
      obtain ⟨front, back, hs, _, rfl⟩ := h
      exact Nat.le_succ_of_le (ih hs)

/-- The end of a line. -/
def lineEnd : List UInt8 := [0x0D, 0x0A]

/-- The lines of the head of an answer, with a character for each byte. -/
def lines (head : List UInt8) : List String :=
  (String.ofList (head.map fun b => Char.ofNat b.toNat)).splitOn "\r\n"

/-- The value of a header field, given its name in small letters. -/
def headerField? (name : String) (fields : List String) : Option String :=
  fields.findSome? fun line =>
    let isBlank (c : Char) : Bool := c = ' ' || c = '\t'
    let field := line.toList.takeWhile (· ≠ ':')
    let value := (line.toList.drop (field.length + 1)).dropWhile isBlank
    if String.ofList (field.map Char.toLower) = name then
      some (String.ofList (value.reverse.dropWhile isBlank).reverse)
    else none

/-- The text of a header field, if its bytes are one. -/
def headerText? (name : String) (fields : List String) : Option String :=
  (headerField? name fields).bind fun value =>
    Utf8.decode? (value.toList.map fun c => c.toNat.toUInt8)

/-- The status that the first line of an answer gives. -/
def status? (line : String) : Option Nat :=
  match line.toList.splitOn ' ' with
  | _ :: code :: _ => Digits.number? 10 code
  | _ => none

/-- How a body breaks off that is sent in one piece, or within one of its pieces. -/
def endWithin : String := "end of file before message length reached"

/-- How a body breaks off between two of its pieces. -/
def endBetween : String := "unexpected EOF during chunk size line"

/-- How a body breaks off with a line that tells no size, given what stands there instead. -/
def noSize (digits : List Char) : String :=
  "Invalid chunk size line: " ++ if (digits.head?.bind (Digits.value? 16)).isSome then "Invalid Size"
    else "missing size digit"

/-- The bytes of a body in pieces, each behind a line with its size; the last piece is empty. Or else
how it breaks off. -/
def joinPieces (bytes : List UInt8) : Except String (List UInt8) :=
  match _h : splitAtMark lineEnd bytes with
  | none => .error endBetween
  | some (line, rest) =>
    let digits := Blank.trim ((Utf8.decodeLossy line).toList.takeWhile (· ≠ ';'))
    match if digits = [] then none else Digits.number? 16 digits with
    | none => .error (noSize digits)
    | some 0 => .ok []
    | some size =>
      if rest.length < size + 2 then .error endWithin
      else (joinPieces (rest.drop (size + 2))).map (rest.take size ++ ·)
termination_by bytes.length
decreasing_by
  have := length_le_of_splitAtMark _h
  simp only [List.length_drop]
  omega

/-- The body of an answer, from the header fields and the bytes behind them, or how it breaks off. A
size that is no number makes no answer. -/
def body? (fields : List String) (bytes : List UInt8) : Option (Except String (List UInt8)) :=
  if headerField? "transfer-encoding" fields = some "chunked" then some (joinPieces bytes)
  else match headerField? "content-length" fields with
    | none => some (.ok bytes)
    | some size => (Digits.number? 10 size.toList).map fun n =>
      if bytes.length < n then .error endWithin else .ok (bytes.take n)

end Wire

/-- What came of a request that was sent and not answered. -/
def Reply.none : Reply :=
  ⟨.broken ["client error (SendRequest)", "connection closed before message completed"], .none⟩

/-- What the bytes of an answer amount to. -/
def Reply.ofBytes (bytes : List UInt8) : Reply :=
  match Wire.splitAtMark (Wire.lineEnd ++ Wire.lineEnd) bytes with
  | .none => .none
  | some (head, rest) =>
    match Wire.lines head with
    | [] => .none
    | first :: fields =>
      match Wire.status? first, Wire.body? fields rest with
      | some status, some body =>
        let exchange := match body with
          | .ok body => .answered status body
          | .error cause => .cutShort cause
        ⟨exchange, (Wire.headerText? "location" fields).filter fun _ => isRedirection status⟩
      | _, _ => .none

end SessionInventory
