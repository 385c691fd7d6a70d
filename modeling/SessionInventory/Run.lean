import SessionInventory.CommandLine
import SessionInventory.Filter
import SessionInventory.Listing

/-!
# A run of the program

Everything that a run prints follows from its arguments, its environment and what comes of turning to
the service, which it does once. However that ends, a run with understood arguments and a filter
succeeds and prints an answer.
-/

namespace SessionInventory

open CommandLine (Options)

/-- What a run leaves behind. -/
structure Outcome where
  exitCode : UInt8
  /-- What is printed. -/
  output : String
  /-- The lines that are reported. -/
  reports : List String
  deriving DecidableEq

/-- The service that settings name. -/
def Settings.service (settings : Settings) : Service :=
  .ofUrl settings.apiUrl Service.defaultTimeout

/-- What happens in a run, and the text that it answers. -/
def inventoryRun (request : Request) (settings : Settings) (contact : Contact) :
    List Event × String :=
  let (events, sessions) := settings.service.loadVia contact
  (.settingsResolved settings :: events ++ [.rendering request sessions.length],
    render request sessions settings)

/-- The filter of a run with understood arguments. -/
def filter? (options : Options) (environment : Environment) : Option Filter :=
  Filter.ofRun? options.verbose (environment "RUST_LOG")

/-- A run with understood arguments and a filter. -/
def runWith (options : Options) (filter : Filter) (environment : Environment)
    (contact : Contact) : Outcome :=
  let (events, text) := inventoryRun options.request (.ofEnvironment environment) contact
  ⟨0, text ++ "\n", (events.filter filter.shows).map Event.line⟩

/-- A run. Help is an answer too; arguments that are not understood end it at once, and so does the
want of a filter. -/
def run (arguments : List (List UInt8)) (environment : Environment) (contact : Contact) :
    Outcome :=
  match CommandLine.read arguments with
  | .error (.help long) => ⟨0, CommandLine.helpText long, []⟩
  | .error (.misuse misuse) => ⟨2, "", [misuse.message]⟩
  | .ok options =>
    match filter? options environment with
    | none => ⟨101, "", []⟩
    | some filter => runWith options filter environment contact

/-- Where a run sends its request; one that ends before sends none. -/
def destination? (arguments : List (List UInt8)) (environment : Environment) :
    Option Destination :=
  match CommandLine.read arguments with
  | .error _ => none
  | .ok options =>
    (filter? options environment).bind fun _ =>
      (Settings.ofEnvironment environment).service.destination.toOption

end SessionInventory
