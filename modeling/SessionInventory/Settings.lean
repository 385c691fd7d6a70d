import SessionInventory.Text.Utf8

/-!
# Settings from the environment

Three variables say where the listing service is and how to log in; each has a default that holds
only while the variable is unset. Values are bytes and are read as text as far as they are text.

The default key file is in the home directory. A variable names that too, and while it is unset or
empty the home directory is the one that the system has on record for the user.
-/

namespace SessionInventory

/-- What a process knows of the system around it. -/
structure Environment where
  /-- The variables, as bytes. -/
  value? : String → Option (List UInt8)
  /-- The home directory on record for the user. -/
  recordedHome : Option (List UInt8)

namespace Environment

instance : CoeFun Environment fun _ => String → Option (List UInt8) := ⟨value?⟩

/-- Variables by themselves are the environment of a user of whom nothing is on record. -/
instance : Coe (String → Option (List UInt8)) Environment := ⟨fun value? => ⟨value?, none⟩⟩

/-- The home directory, if there is one with a name. -/
def home? (environment : Environment) : Option (List UInt8) :=
  ((environment "HOME").filter (· ≠ [])).or (environment.recordedHome.filter (· ≠ []))

end Environment

/-- What the inventory is configured with. -/
structure Settings where
  /-- The address of the listing service. -/
  apiUrl : String
  /-- The private key file for logging in. -/
  keyPath : String
  /-- The user to log in as. -/
  user : String
  deriving DecidableEq

namespace Settings

/-- Where the listing service is unless told otherwise. -/
def defaultApiUrl : String := "http://localhost:8080"

/-- Whom to log in as unless told otherwise. -/
def defaultUser : String := "root"

/-- The key file in a home directory. -/
def keyInHome : String := ".ssh/id_rsa"

/-- A path below a directory: a slash comes between them unless the directory ends with one. -/
def below (directory path : List UInt8) : List UInt8 :=
  if directory.getLast? = some 0x2F then directory ++ path else directory ++ 0x2F :: path

/-- The key file unless told otherwise: in the home directory, if there is one. -/
def defaultKeyPath : (home : Option (List UInt8)) → String
  | none => "~/" ++ keyInHome
  | some home => Utf8.decodeLossy (below home (Utf8.encode keyInHome))

/-- The settings that a look-up of variables gives. -/
def resolve (lookup : String → Option String) (home : Option (List UInt8)) : Settings where
  apiUrl := (lookup "GPU_SHOPPER_URL").getD defaultApiUrl
  keyPath := (lookup "SSH_KEY_PATH").getD (defaultKeyPath home)
  user := (lookup "SSH_USER").getD defaultUser

/-- The settings that an environment gives. -/
def ofEnvironment (environment : Environment) : Settings :=
  resolve (fun name => (environment name).map Utf8.decodeLossy) environment.home?

end Settings

end SessionInventory
