import SessionInventory.Json.Printer
import SessionInventory.Session
import SessionInventory.Settings

/-!
# The inventory

The addressable sessions make up one group of hosts. The inventory lists their keys, in the order of
the sessions and with repeats, and holds one table of variables a key, that of the last session with
the key. A single host is asked for by its key or by its bare host name; the first session that
answers to the name counts.

`Inventory.document` and `HostVars.document` are the JSON that an inventory script has to print, and
`render` is its text.
-/

namespace SessionInventory

open Json (Value)

/-- The variables of a host: where it is and its labels, none of them missing. -/
structure HostVars where
  endpoint : Endpoint
  labels : Labels Value

/-- The variables of a session, if it is addressable. -/
def Session.hostVars? (s : Session) : Option HostVars :=
  s.endpoint?.map fun endpoint => ⟨endpoint, s.labels.effective⟩

/-- The variables of the addressable sessions, in order. -/
def addressable (sessions : List Session) : List HostVars :=
  sessions.filterMap Session.hostVars?

/-- The variables that hold for every host. -/
structure GroupVars where
  user : String
  keyPath : String
  sshArguments : String
  deriving DecidableEq

/-- Rented machines come and go, so their SSH host keys are neither checked nor kept. -/
def unpinnedHostKeys : String :=
  "-o StrictHostKeyChecking=no -o UserKnownHostsFile=/dev/null"

/-- The hosts with their variables. -/
structure Inventory where
  hosts : List String
  groupVars : GroupVars
  hostVars : Table HostVars

/-- The inventory of the given sessions. -/
def Inventory.ofSessions (sessions : List Session) (keyPath user : String) : Inventory where
  hosts := (addressable sessions).map (·.endpoint.key)
  groupVars := ⟨user, keyPath, unpinnedHostKeys⟩
  hostVars := Table.ofList ((addressable sessions).map fun vars => (vars.endpoint.key, vars))

/-- Whether a host answers to a name: it is its key or its bare host name. -/
def HostVars.answersTo (vars : HostVars) (name : String) : Bool :=
  vars.endpoint.key = name || vars.endpoint.host = name

/-- The variables of the first host that answers to a name. -/
def hostVars? (name : String) (sessions : List Session) : Option HostVars :=
  (addressable sessions).find? (·.answersTo name)

/-- The JSON of a host's variables. -/
def HostVars.document (vars : HostVars) : Value :=
  .object [
    ("ansible_host", .string vars.endpoint.host),
    ("ansible_port", .number (.ofUInt16 vars.endpoint.port)),
    ("session_id", vars.labels.id),
    ("provider", vars.labels.provider),
    ("gpu_type", vars.labels.gpuType),
    ("gpu_count", vars.labels.gpuCount),
    ("price_per_hour", vars.labels.pricePerHour),
    ("offer_id", vars.labels.offerId),
    ("consumer_id", vars.labels.consumerId)]

/-- The JSON of the variables that hold for every host. -/
def GroupVars.document (vars : GroupVars) : Value :=
  .object [
    ("ansible_user", .string vars.user),
    ("ansible_ssh_private_key_file", .string vars.keyPath),
    ("ansible_ssh_common_args", .string vars.sshArguments)]

/-- The JSON of an inventory. -/
def Inventory.document (inventory : Inventory) : Value :=
  .object [
    ("benchmark_nodes", .object [
      ("hosts", .array (inventory.hosts.map .string)),
      ("vars", inventory.groupVars.document)]),
    ("_meta", .object [
      ("hostvars", .object (inventory.hostVars.map fun (key, vars) => (key, vars.document)))])]

/-- What an inventory script can be asked. -/
inductive Request where
  /-- All hosts with their variables. -/
  | list
  /-- The variables of one host. -/
  | host (name : String)
  deriving DecidableEq

/-- The JSON that answers a request; nothing is known of an unknown host. -/
def answer (request : Request) (sessions : List Session) (settings : Settings) : Value :=
  match request with
  | .list => (Inventory.ofSessions sessions settings.keyPath settings.user).document
  | .host name =>
    match hostVars? name sessions with
    | some vars => vars.document
    | none => .object []

/-- The text that answers a request. -/
def render (request : Request) (sessions : List Session) (settings : Settings) : String :=
  (answer request sessions settings).pretty

end SessionInventory
