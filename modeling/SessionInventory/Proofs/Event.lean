import SessionInventory.Event

/-!
# What is written of an event

A report of an event says how much it matters, what happened, and with which details
(`Event.entry`). `Event.Written` lists for every kind of event what these are, in words of its own,
and `Event.written_iff` says that they are nothing else; so what is written of several events is known
from their kinds (`Event.map_entry_cons`). What is skipped and what fails is a warning, and
everything else is there for debugging (`Event.severity_eq_warn_iff`).

A failed fetch is worded in two ways. Which of them it is tells whether there was an answer that could
not be decoded (`isDecode_iff_message`).
-/

namespace SessionInventory

open Json (ReadError Mismatch)

namespace Event

/-- How much an event matters, what happened, and the details by name. -/
abbrev Entry := Severity × String × List (String × String)

/-- What is written of an event, apart from where it comes from. -/
def entry (e : Event) : Entry := (e.severity, e.message, e.details)

/-- What is to be written of each kind of event. -/
inductive Written : Event → Severity → String → List (String × String) → Prop where
  | settingsResolved (settings : Settings) :
    Written (.settingsResolved settings) .debug "Resolved inventory configuration"
      [("api_url", settings.apiUrl), ("ssh_user", settings.user), ("ssh_key_path", settings.keyPath)]
  | requestSent (url : String) :
    Written (.requestSent url) .debug "GET request" [("url", url)]
  | bodyUnreadable (flaw : ReadError) (body : String) :
    Written (.bodyUnreadable flaw body) .debug "Failed to parse response"
      [("error", flaw.message), ("body", body)]
  | entrySkipped (index : Nat) (mismatch : Mismatch) :
    Written (.entrySkipped index mismatch) .warn "Skipping unreadable session entry"
      [("index", toString index), ("error", mismatch.message)]
  | sessionsFetched (count : Nat) :
    Written (.sessionsFetched count) .debug "Fetched running sessions" [("count", toString count)]
  | sessionsLoaded (count : Nat) :
    Written (.sessionsLoaded count) .debug "Loaded running sessions" [("count", toString count)]
  | answerInvalid {e : FetchError} (h : e.isDecode = true) :
    Written (.fetchFailed e) .warn "Invalid JSON response from GPU Shopper API"
      [("error", e.explanation)]
  | notConnected {e : FetchError} (h : e.isDecode = false) :
    Written (.fetchFailed e) .warn "Could not connect to GPU Shopper API"
      [("error", e.explanation)]
  | rendering (request : Request) (sessions : Nat) :
    Written (.rendering request sessions) .debug "Rendering inventory"
      [("request", request.description), ("sessions", toString sessions)]

end Event

/-! ## Failed fetches -/

section Failures

variable {e : FetchError}

theorem message_of_isDecode (h : e.isDecode = true) :
    (Event.fetchFailed e).message = "Invalid JSON response from GPU Shopper API" :=
  if_pos h

theorem message_of_not_isDecode (h : e.isDecode = false) :
    (Event.fetchFailed e).message = "Could not connect to GPU Shopper API" :=
  if_neg (Bool.not_eq_true _ ▸ h)

theorem isDecode_iff_message : e.isDecode = true ↔
    (Event.fetchFailed e).message = "Invalid JSON response from GPU Shopper API" := by
  refine ⟨message_of_isDecode, fun h => ?_⟩
  cases hd : e.isDecode with
  | true => rfl
  | false => exact absurd ((message_of_not_isDecode hd).symm.trans h) (by decide)

end Failures

/-! ## All events -/

namespace Event

variable {e : Event} {severity : Severity} {message : String} {details : List (String × String)}

/-- Of every event something is to be written. -/
theorem written (e : Event) : e.Written e.severity e.message e.details := by
  cases e with
  | settingsResolved settings => exact .settingsResolved settings
  | requestSent url => exact .requestSent url
  | bodyUnreadable flaw body => exact .bodyUnreadable flaw body
  | entrySkipped index mismatch => exact .entrySkipped index mismatch
  | sessionsFetched count => exact .sessionsFetched count
  | sessionsLoaded count => exact .sessionsLoaded count
  | fetchFailed failure =>
    cases h : failure.isDecode with
    | true =>
      rw [message_of_isDecode h]
      exact .answerInvalid h
    | false =>
      rw [message_of_not_isDecode h]
      exact .notConnected h
  | rendering request sessions => exact .rendering request sessions

theorem Written.entry_eq (h : e.Written severity message details) :
    e.entry = (severity, message, details) := by
  cases h with
  | answerInvalid h => rw [entry, message_of_isDecode h]; rfl
  | notConnected h => rw [entry, message_of_not_isDecode h]; rfl
  | _ => rfl

/-- What is written of an event is what is to be written of it, and nothing else. -/
theorem written_iff : e.Written severity message details ↔ e.entry = (severity, message, details) := by
  refine ⟨Written.entry_eq, fun h => ?_⟩
  obtain ⟨rfl, rfl, rfl⟩ : e.severity = severity ∧ e.message = message ∧ e.details = details := by
    simpa only [entry, Prod.mk.injEq] using h
  exact e.written

/-- What is written of events is put together from what is to be written of each. -/
theorem map_entry_cons {events : List Event} {entries : List Entry}
    (h : e.Written severity message details) (hrest : events.map entry = entries) :
    (e :: events).map entry = (severity, message, details) :: entries := by
  rw [List.map_cons, written_iff.mp h, hrest]

/-- Warnings are about entries that are skipped and about fetches that fail. Everything else is there
for debugging. -/
theorem severity_eq_warn_iff : (e.severity = .warn ↔
    (∃ index mismatch, e = .entrySkipped index mismatch) ∨ ∃ failure, e = .fetchFailed failure) ∧
    (e.severity = .warn ∨ e.severity = .debug) := by
  cases e <;> simp [Event.severity]

end Event

end SessionInventory
