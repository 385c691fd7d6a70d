import SessionInventory.Json.Value

/-!
# Sessions

A session is a rented machine that is running. Only where to reach it matters to the inventory; what
else is known of it, its labels, is handed on as it came. A part that is missing has a default, and
a session without a host is not addressable.

An inventory knows a machine by a key made of its host and its port. The default port leaves no
trace in the key; any other is written behind the host.
-/

namespace SessionInventory

open Json (Value)

/-! ## Endpoints -/

/-- Where a machine takes SSH connections. -/
structure Endpoint where
  host : String
  port : UInt16
  deriving DecidableEq

/-- The port of a machine that names none. -/
def defaultPort : UInt16 := 22

/-- The name under which the inventory lists an endpoint. -/
def Endpoint.key (e : Endpoint) : String :=
  if e.port = defaultPort then e.host
  else e.host ++ "_" ++ String.ofList (Nat.toDigits 10 e.port.toNat)

/-! ## Sessions -/

/-- What a session is labelled with. -/
structure Labels (α : Type) where
  id : α
  consumerId : α
  provider : α
  offerId : α
  gpuType : α
  gpuCount : α
  pricePerHour : α

/-- A running session as the listing service describes it. -/
structure Session where
  host : Option String
  port : Option UInt16
  labels : Labels (Option Value)

/-- The session that says nothing of itself. -/
def Session.blank : Session :=
  ⟨none, none, ⟨none, none, none, none, none, none, none⟩⟩

/-- The host of a session, unless it is missing or empty. -/
def Session.host? (s : Session) : Option String :=
  s.host.filter (· ≠ "")

/-- The port of a session, which is the default if it is missing. -/
def Session.effectivePort (s : Session) : UInt16 :=
  s.port.getD defaultPort

/-- Where a session can be reached, if it is addressable. -/
def Session.endpoint? (s : Session) : Option Endpoint :=
  s.host?.map fun host => ⟨host, s.effectivePort⟩

/-- The labels with defaults for those that are missing: one GPU, no price, and otherwise an empty
text. -/
def Labels.effective (l : Labels (Option Value)) : Labels Value where
  id := l.id.getD (.string "")
  consumerId := l.consumerId.getD (.string "")
  provider := l.provider.getD (.string "")
  offerId := l.offerId.getD (.string "")
  gpuType := l.gpuType.getD (.string "")
  gpuCount := l.gpuCount.getD (.number (.ofNat 1 (by decide)))
  pricePerHour := l.pricePerHour.getD (.number (.ofNat 0 (by decide)))

/-- Equality of labels that may be missing. -/
def sameLabel : Option Value → Option Value → Bool
  | none, none => true
  | some a, some b => a.same b
  | _, _ => false

/-- Equality of labels, one by one. -/
def Labels.same (a b : Labels (Option Value)) : Bool :=
  sameLabel a.id b.id && sameLabel a.consumerId b.consumerId && sameLabel a.provider b.provider &&
    sameLabel a.offerId b.offerId && sameLabel a.gpuType b.gpuType &&
    sameLabel a.gpuCount b.gpuCount && sameLabel a.pricePerHour b.pricePerHour

/-- Equality of sessions by what they say, before defaults. -/
def Session.same (a b : Session) : Bool :=
  a.host == b.host && a.port == b.port && a.labels.same b.labels

end SessionInventory
