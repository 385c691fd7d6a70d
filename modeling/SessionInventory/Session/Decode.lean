import SessionInventory.Json.Reader.Value
import SessionInventory.Session

/-!
# Sessions from JSON

A session is an object, whose members count by name, or an array of its nine parts. Missing members
and `null` mean the same. Host and port must have the right kind, the host is looked at first;
labels may be anything, and other members are of no account.
-/

namespace SessionInventory

open Json

/-- The host that a member gives. -/
def decodeHost : Option Value → Except Mismatch (Option String)
  | none | some .null => .ok none
  | some (.string s) => .ok (some s)
  | some v => .error (.kind v.found .string)

/-- The port that a member gives: a whole number of sixteen bits. -/
def decodePort : Option Value → Except Mismatch (Option UInt16)
  | none | some .null => .ok none
  | some (.number (.whole n _)) =>
    if 0 ≤ n ∧ n < 0x10000 then .ok (some n.toNat.toUInt16) else .error (.range n .port)
  | some v => .error (.kind v.found .port)

/-- The label that a member gives. -/
def decodeLabel : Option Value → Option Value
  | none | some .null => none
  | some v => some v

namespace Session

/-- The session of an object. -/
def ofMembers (members : Table Value) : Except Mismatch Session :=
  match decodeHost (members.find? "ssh_host") with
  | .error m => .error m
  | .ok host =>
    match decodePort (members.find? "ssh_port") with
    | .error m => .error m
    | .ok port =>
      let label name := decodeLabel (Table.find? name members)
      .ok ⟨host, port,
        { id := label "id"
          consumerId := label "consumer_id"
          provider := label "provider"
          offerId := label "offer_id"
          gpuType := label "gpu_type"
          gpuCount := label "gpu_count"
          pricePerHour := label "price_per_hour" }⟩

/-- The session of an array of its nine parts. A wrong length is noticed behind a host or port that
is. -/
def ofParts (parts : List Value) : Except Mismatch Session :=
  match decodeHost parts[0]? with
  | .error m => .error m
  | .ok host =>
    match decodePort parts[1]? with
    | .error m => .error m
    | .ok port =>
      match parts with
      | [_, _, id, consumerId, provider, offerId, gpuType, gpuCount, pricePerHour] =>
        .ok ⟨host, port,
          { id := decodeLabel id
            consumerId := decodeLabel consumerId
            provider := decodeLabel provider
            offerId := decodeLabel offerId
            gpuType := decodeLabel gpuType
            gpuCount := decodeLabel gpuCount
            pricePerHour := decodeLabel pricePerHour }⟩
      | _ =>
        .error (.length parts.length (if parts.length < 9 then .sessionParts else .noMoreParts))

/-- The session that a value describes. -/
def ofValue : Value → Except Mismatch Session
  | .object members => ofMembers members
  | .array parts => ofParts parts
  | v => .error (.kind v.found .session)

/-- The sessions that an array describes, each of which must be one. -/
def listOfValue : Value → Except Mismatch (List Session)
  | .array entries => entries.mapM ofValue
  | v => .error (.kind v.found .array)

/-- Reads a text and decodes the value that it spells. -/
def decodeText {α : Type} (decode : Value → Except Mismatch α) (text : String) :
    Except Json.Error α :=
  match Json.read text with
  | .error e => .error (.unreadable e)
  | .ok v =>
    match decode v with
    | .error m => .error (.mismatched m)
    | .ok a => .ok a

/-- The session that a text describes. -/
def ofText (text : String) : Except Json.Error Session := decodeText ofValue text

/-- The sessions that a text describes. -/
def listOfText (text : String) : Except Json.Error (List Session) := decodeText listOfValue text

end Session

end SessionInventory
