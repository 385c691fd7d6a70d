import SessionInventory.Inventory
import SessionInventory.Text.Terminal

/-!
# The command line

Arguments are read from the left, and the first problem decides. A host that stands in an argument
of its own is only taken up when the next known flag comes or the arguments end, so a problem with
it yields to one with the arguments between.
-/

namespace SessionInventory.CommandLine

/-- The flags that are known. -/
inductive Flag where
  | list
  | host
  | verbose
  | help
  deriving DecidableEq

/-- A flag as messages name it. -/
def Flag.name : Flag → String
  | .list => "--list"
  | .host => "--host <HOSTNAME>"
  | .verbose => "--verbose"
  | .help => "--help"

/-- The flag of a long name. -/
def Flag.ofName? (name : List UInt8) : Option Flag :=
  if name = Utf8.encode "list" then some .list
  else if name = Utf8.encode "host" then some .host
  else if name = Utf8.encode "verbose" then some .verbose
  else if name = Utf8.encode "help" then some .help
  else none

/-- What is wrong with the arguments. -/
inductive Misuse where
  | hostMissing
  | unexpectedArgument (shown : String)
  | unexpectedValue (flag : Flag) (value : String)
  | repeated (flag : Flag)
  | notText
  deriving DecidableEq

/-- The wording of a misuse. What was given is quoted as a terminal shows it. -/
def Misuse.message : Misuse → String
  | .hostMissing =>
    "error: a value is required for '" ++ Flag.host.name ++ "' but none was supplied"
  | .unexpectedArgument shown => "error: unexpected argument '" ++ Terminal.shown shown ++ "' found"
  | .unexpectedValue flag value =>
    "error: unexpected value '" ++ Terminal.shown value ++ "' for '" ++ flag.name ++
      "' found; no more were expected"
  | .repeated flag => "error: the argument '" ++ flag.name ++ "' cannot be used multiple times"
  | .notText => "error: invalid UTF-8 was detected in one or more arguments"

/-- Why there is no inventory to print: help was asked for, at length or not, or the arguments are
wrong. -/
inductive Stop where
  | help (long : Bool)
  | misuse (misuse : Misuse)
  deriving DecidableEq

/-- What the arguments ask for. -/
structure Options where
  list : Bool
  host : Option String
  verbose : Bool
  deriving DecidableEq

/-- The request of a command line: a host counts only without `--list` and if it has a name. -/
def Options.request (o : Options) : Request :=
  match o.host with
  | some name => if o.list || name = "" then .list else .host name
  | none => .list

/-- A host flag that has not been taken up. -/
inductive Pending where
  | none
  | awaitingValue
  | value (bytes : List UInt8)

/-- What has been read of the arguments. -/
structure State where
  options : Options
  pending : Pending
  /-- `--` was read, behind which there are no flags. -/
  flagsEnded : Bool

/-- Before any argument. -/
def State.start : State := ⟨⟨false, none, false⟩, .none, false⟩

/-- Takes up a host. -/
def State.takeHost (s : State) (bytes : List UInt8) : Except Stop State :=
  if s.options.host.isSome then .error (.misuse (.repeated .host))
  else match Utf8.decode? bytes with
    | some name => .ok { s with options.host := some name }
    | none => .error (.misuse .notText)

/-- Takes up what is pending. -/
def State.settle (s : State) : Except Stop State :=
  match s.pending with
  | .none => .ok s
  | .awaitingValue => .error (.misuse .hostMissing)
  | .value bytes => { s with pending := .none }.takeHost bytes

/-- Reads a flag, given in its long form or not. -/
def State.readFlag (s : State) (flag : Flag) (long : Bool) : Except Stop State :=
  match s.settle with
  | .error stop => .error stop
  | .ok s =>
    match flag with
    | .list =>
      if s.options.list then .error (.misuse (.repeated .list))
      else .ok { s with options.list := true }
    | .verbose =>
      if s.options.verbose then .error (.misuse (.repeated .verbose))
      else .ok { s with options.verbose := true }
    | .host => .ok { s with pending := .awaitingValue }
    | .help => .error (.help long)

/-- An argument that has no place. -/
def unexpected (bytes : List UInt8) : Except Stop State :=
  .error (.misuse (.unexpectedArgument (Utf8.decodeLossy bytes)))

/-- Reads an argument behind its two hyphens: a name, and perhaps a value behind `=`. -/
def State.readLong (s : State) (text : List UInt8) : Except Stop State :=
  let name := text.takeWhile (· ≠ 0x3D)
  match Flag.ofName? name, text.dropWhile (· ≠ 0x3D) with
  | none, _ => unexpected (0x2D :: 0x2D :: name)
  | some flag, [] => s.readFlag flag true
  | some .host, _ :: value =>
    match s.settle with
    | .error stop => .error stop
    | .ok s => s.takeHost value
  | some flag, _ :: value => .error (.misuse (.unexpectedValue flag (Utf8.decodeLossy value)))

/-- Reads an argument behind its single hyphen: each letter is a flag. -/
def State.readLetters (s : State) : List Char → Except Stop State
  | [] => .ok s
  | c :: rest =>
    let flag := if c = 'v' then some Flag.verbose else if c = 'h' then some Flag.help else none
    match flag with
    | none => .error (.misuse (.unexpectedArgument (String.ofList ['-', c])))
    | some flag =>
      match s.readFlag flag false with
      | .error stop => .error stop
      | .ok s => s.readLetters rest

/-- Reads an argument behind its single hyphen. Bytes that are no text come after the letters before
them. -/
def State.readShort (s : State) (text : List UInt8) : Except Stop State :=
  let (letters, rest) := Utf8.splitText text
  match s.readLetters letters.toList with
  | .error stop => .error stop
  | .ok s => if rest = [] then .ok s else unexpected (0x2D :: rest)

/-- Reads an argument that is no flag: it can only be the host that is awaited. -/
def State.readValue (s : State) (bytes : List UInt8) : Except Stop State :=
  match s.pending with
  | .awaitingValue => .ok { s with pending := .value bytes }
  | _ => unexpected bytes

/-- Reads an argument. A single hyphen is no flag. -/
def State.step (s : State) (argument : List UInt8) : Except Stop State :=
  if s.flagsEnded then unexpected argument
  else match argument with
    | [0x2D, 0x2D] => .ok { s with flagsEnded := true }
    | 0x2D :: 0x2D :: text => s.readLong text
    | 0x2D :: b :: text => s.readShort (b :: text)
    | bytes => s.readValue bytes

/-- Reads the arguments. -/
def read (arguments : List (List UInt8)) : Except Stop Options :=
  match arguments.foldlM State.step State.start with
  | .error stop => .error stop
  | .ok s =>
    match s.settle with
    | .error stop => .error stop
    | .ok s => .ok s.options

/-- The lines that explain the command line, at length or in brief. -/
def helpLines : (long : Bool) → List String
  | true => [
    "GPU Inventory - Ansible dynamic inventory backed by the GPU Shopper API.",
    "",
    "Configuration comes from `GPU_SHOPPER_URL`, `SSH_KEY_PATH` and `SSH_USER`.",
    "",
    "Usage: gpu-inventory [OPTIONS]",
    "",
    "Options:",
    "      --list",
    "          List all hosts (the default when no mode is given)",
    "",
    "      --host <HOSTNAME>",
    "          Get variables for a single host",
    "",
    "  -v, --verbose",
    "          Enable verbose logging on stderr",
    "",
    "  -h, --help",
    "          Print help (see a summary with '-h')"]
  | false => [
    "Dynamic Ansible inventory for running GPU Shopper sessions",
    "",
    "Usage: gpu-inventory [OPTIONS]",
    "",
    "Options:",
    "      --list             List all hosts (the default when no mode is given)",
    "      --host <HOSTNAME>  Get variables for a single host",
    "  -v, --verbose          Enable verbose logging on stderr",
    "  -h, --help             Print help (see more with '--help')"]

/-- The text that explains the command line. -/
def helpText (long : Bool) : String :=
  String.join ((helpLines long).map (· ++ "\n"))

end SessionInventory.CommandLine
