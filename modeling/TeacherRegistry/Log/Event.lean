import TeacherRegistry.Json.Value
import TeacherRegistry.Log.Level

/-!
Diagnostic events. Every event that the library reports is named here, with its level, the target
under which filters know it, its text and what it records beside the text.
-/

namespace TeacherRegistry.Log

inductive Event where
  /-- The settings that a command runs with. -/
  | configured (settings : String)
  /-- A request is about to be sent. -/
  | requesting (method url : String) (withToken : Bool)
  /-- The stored token cannot stand in a header. -/
  | tokenUnusable
  /-- The store could not be read for the token. -/
  | tokenUnreadable (error : String)
  /-- The server has refused the session. -/
  | evicting (url loginRoute : String)
  | evictionFailed (key error : String)
  /-- A refused session is sent to the login route. -/
  | redirecting (loginRoute : String)
  | answered (status : Nat) (method url : String)
  | refused (status : Nat) (method url message : String)
  /-- No answer came. -/
  | unanswered (method url message : String)
  | sessionStored
  | sessionCleared
  | storeWritten (path : String) (keys : Nat)
  /-- A session file that cannot be understood is given up. -/
  | storeDiscarded (path error : String)
  | collectionLoaded (count : Nat)
  | draftSaved (outcome : String)
  | reloadFailedAfterSave
  | editBegun (id : String)
  | deleteDeclined
  | recordDeleted
  | reloadFailedAfterDelete
deriving Repr, DecidableEq

namespace Event

def level : Event → Level
  | .refused .. | .unanswered .. | .evictionFailed .. => .error
  | .tokenUnusable | .tokenUnreadable .. | .evicting .. | .storeDiscarded ..
  | .reloadFailedAfterSave | .reloadFailedAfterDelete => .warn
  | .answered .. | .redirecting .. | .sessionStored | .sessionCleared | .draftSaved ..
  | .recordDeleted => .info
  | .configured .. | .requesting .. | .storeWritten .. | .collectionLoaded .. | .editBegun ..
  | .deleteDeclined => .debug

def target : Event → String
  | .configured .. => "docentes"
  | .requesting .. | .tokenUnusable | .evicting .. => "lib_edudata::retrieve::interceptors"
  | .answered .. | .refused .. | .unanswered .. => "lib_edudata::retrieve::ky_http"
  | .tokenUnreadable .. | .evictionFailed .. => "lib_edudata::session::credentials"
  | .redirecting .. => "lib_edudata::session::expiry"
  | .sessionStored | .sessionCleared => "lib_edudata::session"
  | .storeWritten .. | .storeDiscarded .. => "lib_edudata::storage::file_store"
  | .collectionLoaded .. | .draftSaved .. | .reloadFailedAfterSave | .editBegun ..
  | .deleteDeclined | .recordDeleted | .reloadFailedAfterDelete =>
    "lib_edudata::resources::controller"

def text : Event → String
  | .configured .. => "Configuration resolved"
  | .requesting .. => "API request"
  | .tokenUnusable => "Stored token is not a valid header value, sending request without it"
  | .tokenUnreadable .. => "Could not read stored token"
  | .evicting .. => "Token invalid or expired, evicting session"
  | .evictionFailed .. => "Failed to evict session key"
  | .redirecting .. => "Session expired, redirecting to login"
  | .answered .. => "API response"
  | .refused .. => "API error"
  | .unanswered .. => "API network error"
  | .sessionStored => "Session stored"
  | .sessionCleared => "Session cleared"
  | .storeWritten .. => "Session file written"
  | .storeDiscarded .. => "Discarding corrupt session file"
  | .collectionLoaded .. => "Collection loaded"
  | .draftSaved .. => "Draft saved"
  | .reloadFailedAfterSave => "Reload after save failed; collection may be stale"
  | .editBegun .. => "Begin edit"
  | .deleteDeclined => "Delete declined"
  | .recordDeleted => "Record deleted"
  | .reloadFailedAfterDelete => "Reload after delete failed; collection may be stale"

/-- A recorded text. -/
private def word (name value : String) : String × Json.Value := (name, .string value)

/-- A recorded number. -/
private def count (name : String) (value : Nat) : String × Json.Value :=
  (name, .number (.integer value))

/-- What an event records beside its text. -/
def details : Event → List (String × Json.Value)
  | .configured settings => [word "config" settings]
  | .requesting method url withToken =>
    [word "method" method, word "url" url, ("with_token", .bool withToken)]
  | .tokenUnreadable error => [word "error" error]
  | .evicting url loginRoute => [word "url" url, word "login_route" loginRoute]
  | .evictionFailed key error => [word "key" key, word "error" error]
  | .redirecting loginRoute => [word "login_route" loginRoute]
  | .answered status method url => [count "status" status, word "method" method, word "url" url]
  | .refused status method url message =>
    [count "status" status, word "method" method, word "url" url, word "message" message]
  | .unanswered method url message =>
    [word "method" method, word "url" url, word "message" message]
  | .storeWritten path keys => [word "path" path, count "keys" keys]
  | .storeDiscarded path error => [word "path" path, word "error" error]
  | .collectionLoaded n => [count "count" n]
  | .draftSaved outcome => [word "outcome" outcome]
  | .editBegun id => [word "id" id]
  | .tokenUnusable | .sessionStored | .sessionCleared | .reloadFailedAfterSave | .deleteDeclined
  | .recordDeleted | .reloadFailedAfterDelete => []

/-- Everything an event records. A detail named like the text takes its place. -/
def fields (event : Event) : Dictionary Json.Value :=
  Dictionary.ofList (("message", .string event.text) :: event.details)

end Event

/-- An operation in whose course events happen. -/
inductive Span where
  | load
  | submit (editing : Bool)
  | delete (id : String)
  | login (username : String)
  | loginAsGuest
  | validate
deriving Repr, DecidableEq

namespace Span

/-- The level at which filters admit operations. -/
def level : Span → Level := fun _ => .info

def target : Span → String
  | .load | .submit _ | .delete _ => "lib_edudata::resources::controller"
  | .login _ | .loginAsGuest | .validate => "lib_edudata::session"

def label : Span → String
  | .load => "load"
  | .submit _ => "submit"
  | .delete _ => "delete"
  | .login _ => "login"
  | .loginAsGuest => "login_as_guest"
  | .validate => "validate"

/-- What an operation records beside its name. -/
def details : Span → List (String × Json.Value)
  | .load => [("path", .string "/docentes")]
  | .submit editing => [("path", .string "/docentes"), ("editing", .bool editing)]
  | .delete id => [("path", .string "/docentes"), ("id", .string id)]
  | .login username => [("username", .string username)]
  | .loginAsGuest | .validate => []

/-- The operation as it is shown with an event. -/
def value (span : Span) : Json.Value :=
  .ofMembers (("name", .string span.label) :: span.details)

end Span

end TeacherRegistry.Log
