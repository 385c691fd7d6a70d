/-!
# Failures to fetch

A failure has a text of its own and, behind it, the causes it came from. `explain` joins them into
one line that leaves out what it already says.
-/

namespace SessionInventory

/-- Whether a text occurs in another one. -/
def occursIn (part : List Char) : List Char → Bool
  | [] => part.isEmpty
  | c :: rest => part.isPrefixOf (c :: rest) || occursIn part rest

theorem occursIn_iff {part text : List Char} : occursIn part text = true ↔ part <:+: text := by
  induction text with
  | nil => simp [occursIn]
  | cons c rest ih => simp [occursIn, ih, List.infix_cons_iff]

/-- Adds a cause to an explanation, unless that contains its text already. -/
def addCause (explanation cause : String) : String :=
  if occursIn cause.toList explanation.toList then explanation
  else explanation ++ ": " ++ cause

/-- A text with the causes behind it, outermost first. -/
def explain (text : String) (causes : List String) : String :=
  causes.foldl addCause text

/-- What another part of the system reports: its text, and the causes behind it. -/
structure Report where
  text : String
  causes : List String
  deriving DecidableEq

/-- Why no sessions could be fetched. -/
inductive FetchError where
  /-- There is no client to send a request with. -/
  | client (report : Report)
  /-- The request was not sent, or the answer did not arrive. -/
  | transport (report : Report)
  /-- The service answered with another status than success. -/
  | status (code : Nat) (body : String)
  /-- The answer is not the JSON that was expected. -/
  | decode (report : Report)
  deriving DecidableEq

namespace FetchError

/-- The wording of a failure, without its causes. -/
def message : FetchError → String
  | .client r => "Failed to build HTTP client: " ++ r.text
  | .transport r => "HTTP error: " ++ r.text
  | .status code body => "API error: " ++ toString code ++ " - " ++ body
  | .decode r => "Invalid JSON response: " ++ r.text

/-- The causes behind a failure: what was reported and what was behind that. -/
def causes : FetchError → List String
  | .client r | .transport r | .decode r => r.text :: r.causes
  | .status _ _ => []

/-- The wording of a failure with its causes. -/
def explanation (e : FetchError) : String := explain e.message e.causes

/-- Whether the service answered, but not with what was expected. -/
def isDecode : FetchError → Bool
  | .decode _ => true
  | _ => false

/-- Whether the service could not be reached or refused to answer. -/
def isTransport (e : FetchError) : Bool := !e.isDecode

end FetchError

end SessionInventory
