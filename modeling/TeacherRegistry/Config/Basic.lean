import TeacherRegistry.Dictionary
import TeacherRegistry.Text.Blank
import TeacherRegistry.Text.Integer
import TeacherRegistry.Text.Quoted
import TeacherRegistry.Url.Parser

/-!
Settings of a run, read from options: texts under lower-case names. An option that is not given
leaves the default, and an unknown one is passed over.
-/

namespace TeacherRegistry

structure Config where
  /-- The address that all paths are appended to. -/
  baseUrl : String
  /-- How long a request may take. -/
  timeoutMillis : Nat
  /-- Where a refused session is sent. -/
  loginRoute : String
  /-- How often a request is sent again after a failure that may pass. -/
  maxRetries : Nat
  /-- The session file; if none is given it is in the data directory. -/
  sessionFile : Option String
deriving Repr, DecidableEq

namespace Config

/-- Options by name. -/
abbrev Options := Dictionary String

/-- The settings when no option is given. -/
def default : Config :=
  { baseUrl := "http://localhost:8081/api"
    timeoutMillis := 10000
    loginRoute := "/login"
    maxRetries := 0
    sessionFile := none }

inductive Error where
  /-- The configuration file holds no JSON. -/
  | malformedFile
  /-- The configuration file holds something else than an object. -/
  | notAnObject (found : String)
  /-- The name of an option cannot be taken apart below the name of another. -/
  | brokenName
  | invalidBaseUrl (url reason : String)
  | invalidValue (key value : String)
deriving Repr, DecidableEq

def Error.message : Error → String
  | .malformedFile => "Failed to load configuration sources: not JSON"
  | .notAnObject found =>
    "Failed to load configuration sources: Top-level JSON element must be an object. Instead, '"
      ++ found ++ "' was found. (config::json::JsonConfigurationProvider)"
  | .brokenName => "Failed to load configuration sources: a name cannot be taken apart"
  | .invalidBaseUrl url reason => "Invalid base URL " ++ Text.quoted url ++ ": " ++ reason
  | .invalidValue key value => "Invalid value for " ++ key ++ ": " ++ Text.quoted value

/-- Whether the error breaks a run off without a message. -/
def Error.isCrash : Error → Bool
  | .malformedFile | .brokenName => true
  | _ => false

/-- What is shown for the session file in the data directory. -/
def dataDirectoryMark : String := "<data dir>"

/-- The settings as they are shown. -/
def display (c : Config) : String :=
  "ClientConfig\n    Base URL: " ++ c.baseUrl
    ++ ",\n    Timeout: " ++ toString (c.timeoutMillis / 1000)
    ++ "s,\n    Login route: " ++ c.loginRoute
    ++ ",\n    Max retries: " ++ toString c.maxRetries
    ++ ",\n    Session file: " ++ c.sessionFile.getD dataDirectoryMark ++ "\n"

/-- Checks that the base is an address that requests can be made to. -/
def validate (c : Config) : Except Error Unit :=
  match Url.parse c.baseUrl with
  | .error e => .error (.invalidBaseUrl c.baseUrl e.message)
  | .ok url =>
    if url.isHttp then .ok ()
    else .error (.invalidBaseUrl c.baseUrl ("unsupported scheme " ++ String.ofList url.scheme))

theorem validate_iff (c : Config) :
    c.validate = .ok () ↔ ∃ url, Url.parse c.baseUrl = .ok url ∧ url.isHttp = true := by
  unfold validate
  cases Url.parse c.baseUrl with
  | error e => simp
  | ok url => cases http : url.isHttp <;> simp [http]

/-- Bounds of the whole numbers in options. -/
def timeoutBound : Nat := UInt64.size
def retriesBound : Nat := UInt32.size

/-- Reads a whole number from an option, blanks around it apart. -/
def readNatural (key raw : String) (bound : Nat) : Except Error Nat :=
  match Text.natural? bound (Text.trim raw) with
  | some n => .ok n
  | none => .error (.invalidValue key raw)

/-- Reads the number of seconds that a request may take, at least one. -/
def readTimeout (raw : String) : Except Error Nat :=
  match readNatural "timeout_secs" raw timeoutBound with
  | .ok 0 => .error (.invalidValue "timeout_secs" raw)
  | .ok seconds => .ok (seconds * 1000)
  | .error e => .error e

/-- Reads a setting from the option of that name if it is given. -/
def setting {α : Type} (options : Options) (key : String) (default : α)
    (read : String → Except Error α) : Except Error α :=
  match options.get? key with
  | some raw => read raw
  | none => .ok default

/-- The settings that options spell. -/
def ofOptions (options : Options) : Except Error Config := do
  let baseUrl ← setting options "base_url" default.baseUrl fun raw => .ok (Text.trim raw)
  let timeoutMillis ← setting options "timeout_secs" default.timeoutMillis readTimeout
  let loginRoute ← setting options "login_route" default.loginRoute fun raw => .ok (Text.trim raw)
  let maxRetries ← setting options "max_retries" default.maxRetries
    (readNatural "max_retries" · retriesBound)
  let sessionFile ← setting options "session_file" default.sessionFile fun raw =>
    .ok (if Text.isBlank raw then none else some (Text.trim raw))
  let config : Config := { baseUrl, timeoutMillis, loginRoute, maxRetries, sessionFile }
  config.validate
  return config

end Config

end TeacherRegistry
