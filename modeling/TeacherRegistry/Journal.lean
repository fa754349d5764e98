import TeacherRegistry.Http.Exchange
import TeacherRegistry.Log.Event

/-!
The journal: everything a run does that can be seen from outside, in the order in which it happens.
Requests, notices and prompts are views of this one history.
-/

namespace TeacherRegistry

/-- Whether a notice tells of a success. -/
inductive Tone where
  | success
  | failure
deriving Repr, DecidableEq

inductive Entry where
  /-- A request that reached the far end. -/
  | sent (hop : Http.Hop)
  /-- A notice to the operator. -/
  | notice (tone : Tone) (text : String)
  /-- A question to the operator, and the answer. -/
  | asked (prompt : String) (answer : Bool)
  /-- The operator is sent to log in again. -/
  | expired (loginRoute : String)
  /-- The operator is told how to log in again. -/
  | hinted (loginRoute : String)
  /-- A diagnostic event, in the course of these operations, outermost first. -/
  | logged (event : Log.Event) (spans : List Log.Span)
  /-- A line of output. -/
  | printed (line : String)

abbrev Journal := List Entry

namespace Journal

/-- The requests that reached the far end. -/
def requests (journal : Journal) : List Http.Request :=
  journal.filterMap fun
    | .sent hop => some hop.request
    | _ => none

/-- The notices to the operator. -/
def notices (journal : Journal) : List (Tone × String) :=
  journal.filterMap fun
    | .notice tone text => some (tone, text)
    | _ => none

/-- The questions to the operator. -/
def prompts (journal : Journal) : List String :=
  journal.filterMap fun
    | .asked prompt _ => some prompt
    | _ => none

/-- The routes that the operator was sent to. -/
def redirects (journal : Journal) : List String :=
  journal.filterMap fun
    | .expired route => some route
    | _ => none

/-- The diagnostic events with the operations that they happened in. -/
def events (journal : Journal) : List (Log.Event × List Log.Span) :=
  journal.filterMap fun
    | .logged event spans => some (event, spans)
    | _ => none

end Journal

end TeacherRegistry
