import TeacherRegistry.Journal
import TeacherRegistry.Store
import TeacherRegistry.Text.Blank

/-!
The world that operations act on: the far end, the store, the credential, the operator's answers,
the journal of what has happened, and the reasons that are given when the store fails.
-/

namespace TeacherRegistry

/-- Where the bearer token comes from. -/
inductive Credentials where
  /-- The store, under the key of the token. -/
  | stored
  /-- A token that is given for the run, until it is refused. -/
  | fixed (token : Option String)
deriving Repr, DecidableEq

/-- Who answers the questions that are asked before something is destroyed. -/
inductive Confirmation where
  /-- Every question has the same answer. -/
  | always (answer : Bool)
  /-- The answers in turn; after the last the answer is no. -/
  | answers (rest : List Bool)
deriving Repr, DecidableEq

/-- What happens after the server has refused the session. -/
inductive Expiry where
  /-- Nothing. -/
  | ignored
  /-- The operator is sent to the login route. -/
  | redirected
  /-- The operator is told how to log in again. -/
  | hinted
deriving Repr, DecidableEq

structure World where
  farEnd : Http.FarEnd
  store : Store
  credentials : Credentials
  confirmation : Confirmation
  expiry : Expiry
  /-- The operations that are under way, outermost first. -/
  spans : List Log.Span
  journal : Journal
  /-- The reasons that are given for the errors of the store. -/
  reasons : Store.Reasons := Store.noReasons

namespace World

/-- Appends entries to the journal. -/
def append (w : World) (entries : Journal) : World :=
  { w with journal := w.journal ++ entries }

/-- Appends one entry to the journal. -/
def record (w : World) (entry : Entry) : World :=
  w.append [entry]

/-- Reports diagnostic events. -/
def logAll (w : World) (events : List Log.Event) : World :=
  w.append (events.map fun event => .logged event w.spans)

/-- Reports one diagnostic event. -/
def log (w : World) (event : Log.Event) : World :=
  w.logAll [event]

/-- Gives the operator a notice. -/
def notify (w : World) (tone : Tone) (text : String) : World :=
  w.record (.notice tone text)

/-- Prints a line. -/
def print (w : World) (line : String) : World :=
  w.record (.printed line)

/-- Begins an operation. -/
def enter (w : World) (span : Log.Span) : World :=
  { w with spans := w.spans ++ [span] }

/-- Ends the innermost operation. -/
def leave (w : World) : World :=
  { w with spans := w.spans.dropLast }

/-- Asks the operator a question. -/
def ask (w : World) (prompt : String) : Bool × World :=
  match w.confirmation with
  | .always answer => (answer, w.record (.asked prompt answer))
  | .answers [] => (false, w.record (.asked prompt false))
  | .answers (answer :: rest) =>
    (answer, { w with confirmation := .answers rest }.record (.asked prompt answer))

/-- The reason that is given for an error of the store now. -/
def reason (w : World) (e : Store.Error) : String :=
  w.reasons w.store e

/-- Takes over a change of the store. -/
def apply (w : World) (change : Store.Change) : Except Store.Error Unit × World :=
  (change.outcome, { w with store := change.store }.logAll change.events)

/-- Puts a text under a key of the store. -/
def put (w : World) (key value : String) : Except Store.Error Unit × World :=
  w.apply (w.store.set key value)

/-- Removes a key of the store. -/
def remove (w : World) (key : String) : Except Store.Error Unit × World :=
  w.apply (w.store.remove key (w.reason .corrupt))

/-- The bearer token. A store that cannot be read holds none, and a blank token is none. -/
def token (w : World) : Option String × World :=
  match w.credentials with
  | .fixed token => (token, w)
  | .stored =>
    match w.store.get? Store.tokenKey with
    | .ok token => (token.filter fun t => !Text.isBlank t, w)
    | .error e => (none, w.log (.tokenUnreadable (e.message (w.reason e))))

/-- Removes one key of the session and goes on if that fails. -/
def evictKey (w : World) (key : String) : World :=
  match w.remove key with
  | (.ok _, v) => v
  | (.error e, v) => v.log (.evictionFailed key (e.message (w.reason e)))

/-- Forgets the credential, and the profile with it. -/
def evict (w : World) : World :=
  match w.credentials with
  | .fixed _ => { w with credentials := .fixed none }
  | .stored => (w.evictKey Store.tokenKey).evictKey Store.userKey

/-- Sends the operator to log in again. -/
def expire (w : World) (loginRoute : String) : World :=
  match w.expiry with
  | .ignored => w
  | .redirected => (w.log (.redirecting loginRoute)).record (.expired loginRoute)
  | .hinted => w.record (.hinted loginRoute)

end World

end TeacherRegistry
