import TeacherRegistry.Json.Value
import TeacherRegistry.Text.Blank

/-!
Failures of requests, and the one message in which each is told to the operator.
-/

namespace TeacherRegistry

/-- Why a request came to nothing. -/
inductive TransportError where
  /-- There was no response, or not all of it came. -/
  | network (message : String)
  /-- The server refused the session. -/
  | authentication (message : String)
  /-- The server refused the request. -/
  | request (status : Nat) (message : String)
  /-- The request was accepted, but the answer is not of the expected form. -/
  | decode (detail : String)
  /-- What was to be sent has no JSON form. -/
  | encode (detail : String)
  /-- The path makes no address below that of the server. -/
  | invalidUrl (detail : String)
  /-- Requests cannot be made at all. -/
  | setup (detail : String)
deriving Repr, DecidableEq

namespace TransportError

def message : TransportError → String
  | .network message | .authentication message | .request _ message => message
  | .decode detail => "Invalid response body: " ++ detail
  | .encode detail => "Failed to serialize request body: " ++ detail
  | .invalidUrl detail => "Invalid request URL: " ++ detail
  | .setup detail => "Failed to initialise HTTP client: " ++ detail

/-- The status of a server that refuses the session. -/
def unauthorized : Nat := 401

/-- The status of the response, if there was one that tells of failure. -/
def status? : TransportError → Option Nat
  | .authentication _ => some unauthorized
  | .request status _ => some status
  | _ => none

def isAuthentication : TransportError → Bool
  | .authentication _ => true
  | _ => false

/-- What is said when nothing describes the failure. -/
def unknown : String := "unknown error"

/-- A text member of a JSON object that is not blank. -/
def wording? (body : Json.Value) (name : String) : Option String :=
  ((body.member? name).bind Json.Value.string?).filter fun s => !Text.isBlank s

/-- The message of a failure: what the body of the response says, else its description. -/
def wording (body : Option Json.Value) (description : Option String) : String :=
  let said := body.bind fun body => (wording? body "message").or (wording? body "error")
  (said.or (description.filter fun s => !Text.isBlank s)).getD unknown

/-- A message is never blank. -/
theorem isBlank_wording (body : Option Json.Value) (description : Option String) :
    Text.isBlank (wording body description) = false := by
  have blankless : ∀ (o : Option String) (s : String),
      o.filter (fun s => !Text.isBlank s) = some s → Text.isBlank s = false := by
    intro o s h
    simpa using (Option.filter_eq_some_iff.mp h).2
  simp only [wording]
  cases h : (body.bind fun body => (wording? body "message").or (wording? body "error")).or
      (description.filter fun s => !Text.isBlank s) with
  | none => decide
  | some s =>
    simp only [Option.getD_some]
    rcases Option.or_eq_some_iff.mp h with said | ⟨_, described⟩
    · obtain ⟨body, _, said⟩ := Option.bind_eq_some_iff.mp said
      rcases Option.or_eq_some_iff.mp said with said | ⟨_, said⟩
      · exact blankless _ _ said
      · exact blankless _ _ said
    · exact blankless _ _ described

end TransportError

end TeacherRegistry
