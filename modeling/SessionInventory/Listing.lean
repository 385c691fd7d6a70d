import SessionInventory.Address
import SessionInventory.Event
import SessionInventory.Session.Decode

/-!
# The listing of running sessions

The service lists the running sessions at one address below its base. What comes back is an
`Exchange`: no answer at all, one that breaks off, or a status and a body. `fetch` turns it into
sessions or a failure, and reports on the way; `load` never fails, it reports the failure and goes on
with no sessions. `fetchVia` and `loadVia` say the same of a `Contact`, where it is open whether there
is a client to send the request with.

* A body that is no JSON object, or whose `sessions` are no array, fails as a whole.
* An entry that is no session is skipped with a warning, and the others count.
-/

namespace SessionInventory

open Json (Value)

/-- The listing service, as a client knows it. -/
structure Service where
  /-- The address below which it answers, without slashes at the end. -/
  base : String
  /-- How long to wait for an answer, in milliseconds. -/
  timeout : Nat

/-- Whether an address fits into a request: it is not too long, and its host has none of a few
characters. -/
def Address.isSendable (a : Address) : Bool :=
  a.text.utf8ByteSize ≤ 65534 &&
    !(a.host?.getD "").toList.any "\"`\x7b\x7d".toList.contains

/-- What is reported of an address to which no request is sent. -/
def Address.refusal (a : Address) (cause : String) : Report :=
  ⟨"builder error for url (" ++ a.text ++ ")", [cause]⟩

/-- What is reported of an address that does not answer. -/
def Address.silence (a : Address) (causes : List String) : Report :=
  ⟨"error sending request for url (" ++ a.text ++ ")", causes⟩

/-- The cause of not sending a request to an address of another scheme. -/
def wrongScheme : String := "URL scheme is not allowed"

/-- Where a request goes, and who it says asks. -/
structure Destination where
  address : Address
  credentials : Option Address.Credentials

namespace Service

/-- The time to wait for an answer unless told otherwise, in milliseconds. -/
def defaultTimeout : Nat := 10000

/-- The service at an address. -/
def ofUrl (url : String) (timeout : Nat) : Service :=
  ⟨String.ofList (url.toList.reverse.dropWhile (· = '/')).reverse, timeout⟩

/-- Where the running sessions are listed. -/
def listingUrl (service : Service) : String :=
  service.base ++ "/api/v1/sessions?status=running"

/-- Why no request can be sent to an address. -/
def refused (address : Address) (cause : String) : FetchError := .transport (address.refusal cause)

/-- Where a request goes, or why none can be sent. -/
def destination (service : Service) : Except FetchError Destination :=
  match Address.read service.listingUrl with
  | .error e => .error (.transport ⟨"builder error", [e.message]⟩)
  | .ok full =>
    let address := full.withoutCredentials
    if address.host? = none ∨ (address.scheme ≠ "http" ∧ address.scheme ≠ "https") then
      .error (refused address wrongScheme)
    else if ¬address.isSendable then .error (refused address "Parsed Url is not a valid Uri")
    else .ok ⟨address, full.authority.bind (·.credentials?)⟩

end Service

/-- What came of sending a request. -/
inductive Exchange where
  /-- No answer arrived, for the given causes. -/
  | broken (causes : List String)
  /-- An answer began to arrive, but led to nothing, and this is reported of it. -/
  | failed (report : Report)
  /-- An answer arrived. -/
  | answered (status : Nat) (body : List UInt8)

/-- What came of an answer whose body breaks off, for the given cause. -/
def Exchange.cutShort (cause : String) : Exchange :=
  .failed ⟨"error decoding response body", ["request or response body error",
    "error reading a body from connection", cause]⟩

/-- What came of turning to a service. -/
inductive Contact where
  /-- There was no client to send a request with. -/
  | clientless (report : Report)
  /-- A request was sent. -/
  | made (exchange : Exchange)

instance : Coe Exchange Contact := ⟨.made⟩

/-- The text of an answer's body. Two statuses never have one. -/
def bodyText (status : Nat) (body : List UInt8) : String :=
  if status = 204 ∨ status = 304 then "" else Utf8.decodeLossy body

/-- Whether a status says that all went well. -/
def isSuccess (status : Nat) : Bool := 200 ≤ status && status ≤ 299

/-- The JSON object that an answer carries, with what there is to report. -/
def receive (address : Address) : Exchange → List Event × Except FetchError (Table Value)
  | .broken causes => ([], .error (.transport (address.silence causes)))
  | .failed report => ([], .error (.transport report))
  | .answered status body =>
    let text := bodyText status body
    if isSuccess status then
      match Json.readObject text with
      | .ok members => ([], .ok members)
      | .error e => ([.bodyUnreadable e text], .error (.decode ⟨e.message, []⟩))
    else ([], .error (.status status text))

/-- The entries of a listing; none if they are missing or `null`. -/
def listedEntries (members : Table Value) : Except Json.Mismatch (List Value) :=
  match members.find? "sessions" with
  | none | some .null => .ok []
  | some (.array entries) => .ok entries
  | some v => .error (.kind v.found .array)

/-- The sessions among entries, counted from `index`, with a warning for each other entry. -/
def decodeEntries (index : Nat) : List Value → List Event × List Session
  | [] => ([], [])
  | entry :: rest =>
    let (events, sessions) := decodeEntries (index + 1) rest
    match Session.ofValue entry with
    | .ok s => (events, s :: sessions)
    | .error m => (.entrySkipped index m :: events, sessions)

/-- The sessions of a listing, with what there is to report. -/
def listedSessions (members : Table Value) : List Event × Except FetchError (List Session) :=
  match listedEntries members with
  | .error m => ([], .error (.decode ⟨m.message, []⟩))
  | .ok entries =>
    let (events, sessions) := decodeEntries 0 entries
    (events ++ [.sessionsFetched sessions.length], .ok sessions)

namespace Service

/-- The running sessions, given what comes of the request, with what there is to report. -/
def fetch (service : Service) (exchange : Exchange) :
    List Event × Except FetchError (List Session) :=
  let sent := Event.requestSent service.listingUrl
  match service.destination with
  | .error e => ([sent], .error e)
  | .ok destination =>
    match receive destination.address exchange with
    | (events, .error e) => (sent :: events, .error e)
    | (events, .ok members) =>
      let (more, result) := listedSessions members
      (sent :: events ++ more, result)

/-- The running sessions, none if they cannot be fetched, with what there is to report. -/
def load (service : Service) (exchange : Exchange) : List Event × List Session :=
  match service.fetch exchange with
  | (events, .ok sessions) => (events ++ [.sessionsLoaded sessions.length], sessions)
  | (events, .error e) => (events ++ [.fetchFailed e], [])

/-- The running sessions, given what comes of turning to the service. -/
def fetchVia (service : Service) : Contact → List Event × Except FetchError (List Session)
  | .clientless report => ([], .error (.client report))
  | .made exchange => service.fetch exchange

/-- The running sessions, none if they cannot be fetched, given what comes of turning to the
service. -/
def loadVia (service : Service) : Contact → List Event × List Session
  | .clientless report => ([.fetchFailed (.client report)], [])
  | .made exchange => service.load exchange

end Service

end SessionInventory
