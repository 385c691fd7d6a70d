import SessionInventory.FetchError
import SessionInventory.Inventory
import SessionInventory.Json.Error

/-!
# What a run reports

A run reports what it does as events. `Event.line` writes one as a line: its severity, the part of
the program that it comes from, what happened, and named details.
-/

namespace SessionInventory

/-- How much an event matters, the most severe first. -/
inductive Severity where
  | error
  | warn
  | info
  | debug
  | trace
  deriving DecidableEq

namespace Severity

/-- The place of a severity among them, from one. -/
def rank : Severity → Nat
  | .error => 1
  | .warn => 2
  | .info => 3
  | .debug => 4
  | .trace => 5

/-- The name of a severity. -/
def name : Severity → String
  | .error => "ERROR"
  | .warn => "WARN"
  | .info => "INFO"
  | .debug => "DEBUG"
  | .trace => "TRACE"

end Severity

/-- Something that happened in a run. -/
inductive Event where
  | settingsResolved (settings : Settings)
  | requestSent (url : String)
  | bodyUnreadable (error : Json.ReadError) (body : String)
  | entrySkipped (index : Nat) (mismatch : Json.Mismatch)
  | sessionsFetched (count : Nat)
  | sessionsLoaded (count : Nat)
  | fetchFailed (error : FetchError)
  | rendering (request : Request) (sessions : Nat)

/-- A request as reports name it. -/
def Request.description : Request → String
  | .list => "List"
  | .host name => "Host(" ++ Quoted.quote name ++ ")"

namespace Event

/-- How much an event matters. -/
def severity : Event → Severity
  | .entrySkipped .. | .fetchFailed _ => .warn
  | _ => .debug

/-- The part of the program that an event comes from. -/
def source : Event → String
  | .settingsResolved _ | .rendering .. => "gpu_inventory"
  | .sessionsLoaded _ | .fetchFailed _ => "gpu_inventory::source"
  | .requestSent _ | .bodyUnreadable .. | .entrySkipped .. | .sessionsFetched _ =>
    "gpu_inventory::source::shopper::client"

/-- What happened. -/
def message : Event → String
  | .settingsResolved _ => "Resolved inventory configuration"
  | .requestSent _ => "GET request"
  | .bodyUnreadable .. => "Failed to parse response"
  | .entrySkipped .. => "Skipping unreadable session entry"
  | .sessionsFetched _ => "Fetched running sessions"
  | .sessionsLoaded _ => "Loaded running sessions"
  | .fetchFailed e =>
    if e.isDecode then "Invalid JSON response from GPU Shopper API"
    else "Could not connect to GPU Shopper API"
  | .rendering .. => "Rendering inventory"

/-- The details of an event, by name. -/
def details : Event → List (String × String)
  | .settingsResolved s =>
    [("api_url", s.apiUrl), ("ssh_user", s.user), ("ssh_key_path", s.keyPath)]
  | .requestSent url => [("url", url)]
  | .bodyUnreadable e body => [("error", e.message), ("body", body)]
  | .entrySkipped index m => [("index", toString index), ("error", m.message)]
  | .sessionsFetched count | .sessionsLoaded count => [("count", toString count)]
  | .fetchFailed e => [("error", e.explanation)]
  | .rendering request sessions =>
    [("request", request.description), ("sessions", toString sessions)]

/-- The line that reports an event. -/
def line (e : Event) : String :=
  e.severity.name ++ " " ++ e.source ++ ": " ++ e.message ++
    String.join (e.details.map fun (name, value) => " " ++ name ++ "=" ++ value)

end Event

end SessionInventory
