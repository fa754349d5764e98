import TeacherRegistry.Client.Error
import TeacherRegistry.Config.Basic
import TeacherRegistry.Text.Substring
import TeacherRegistry.World

/-!
The client of the registry's server. It is bound to one address, below which all paths lie. Every
request carries the bearer token of the moment; one that failed in a way that may pass is sent
again; and when the server at last refuses the session, the credential is forgotten before the
caller hears of it.
-/

namespace TeacherRegistry

structure Client where
  /-- The text that paths are appended to, without slashes at its end. -/
  baseUrl : String
  timeoutMillis : Nat
  loginRoute : String
  maxRetries : Nat
deriving Repr, DecidableEq

/-- The answer to a request that was accepted. -/
structure Answer (α : Type) where
  /-- What the body holds; nothing if it is blank or not JSON. -/
  data : Option α
  status : Nat
  headers : List (String × String)

namespace Client

/-- The error of a text that is no address. -/
def invalidUrl (text : String) (e : Url.Error) : TransportError :=
  .invalidUrl (text ++ ": " ++ e.message)

/-- The client that settings describe. -/
def ofConfig (config : Config) : Except TransportError Client :=
  let baseUrl := String.ofList (Text.trimEndOf (· == '/') config.baseUrl.toList)
  match Url.parse baseUrl with
  | .error e => .error (invalidUrl config.baseUrl e)
  | .ok _ => .ok ⟨baseUrl, config.timeoutMillis, config.loginRoute, config.maxRetries⟩

/-- The address of a path below that of the server. -/
def urlFor (client : Client) (path : String) : Except TransportError Url :=
  let full := client.baseUrl ++ "/" ++ String.ofList (path.toList.dropWhile (· == '/'))
  (Url.parse full).mapError (invalidUrl full)

/-- Attaches the bearer token of the moment. A token that may not stand in a header is left out. -/
def authorize (request : Http.Request) (w : World) : Http.Request × World :=
  match w.token with
  | (none, w) => (request, w.log (.requesting request.method request.url.text false))
  | (some token, w) =>
    if Http.isHeaderText token then
      ({ request with authorization := some ("Bearer " ++ token) },
        w.log (.requesting request.method request.url.text true))
    else
      (request, (w.log .tokenUnusable).log (.requesting request.method request.url.text false))

/-- Sends a request once, following redirections. -/
def attempt (request : Http.Request) (w : World) : Http.Outcome × World :=
  let (request, w) := authorize request w
  let exchange := Http.exchange Http.redirectLimit w.farEnd request
  (exchange.outcome, { w with farEnd := exchange.farEnd }.append (exchange.hops.map .sent))

/-- Sends a request until it does not fail in a way that may pass, at most `retries` times more. -/
def persist (request : Http.Request) : Nat → World → Http.Outcome × World
  | 0, w => attempt request w
  | retries + 1, w =>
    match attempt request w with
    | (outcome, w) => if outcome.isTransient then persist request retries w else (outcome, w)

/-- Forgets a session that the server has refused. -/
def guard (client : Client) (outcome : Http.Outcome) (w : World) : World :=
  match outcome with
  | .received url response _ =>
    if response.status = TransportError.unauthorized then
      ((w.log (.evicting url.text client.loginRoute)).evict).expire client.loginRoute
    else w
  | .failed _ => w

/-- Sends a request with all that goes with it. -/
def deliver (client : Client) (request : Http.Request) (w : World) : Http.Outcome × World :=
  let (outcome, w) := persist request client.maxRetries w
  (outcome, client.guard outcome w)

/-- ASCII white space. -/
def isAsciiBlank (b : UInt8) : Bool :=
  b == 0x20 || b == 0x09 || b == 0x0A || b == 0x0C || b == 0x0D

/-- Whether a response claims to be JSON. One with no legible content type may be. -/
def claimsJson (response : Http.Response) : Bool :=
  match response.header? "content-type" with
  | none => true
  | some value =>
    if value.toList.all fun c => c == '\t' || (0x20 ≤ c.toNat && c.toNat < 0x7F) then
      Text.contains (Text.asciiLower value) "json"
    else true

/-- What the body of an accepted response holds. -/
def readBody {α : Type} (decode : ByteArray → Option α) (response : Http.Response) :
    Except TransportError (Option α) :=
  if response.body.toList.all isAsciiBlank || !claimsJson response then .ok none
  else match decode response.body with
    | some data => .ok (some data)
    | none => .error (.decode "not the JSON that was expected")

/-- The error of a response that tells of failure. -/
def refusal (response : Http.Response) : TransportError :=
  let description := "Request failed with status code " ++ toString response.status
  let message := TransportError.wording (Json.Value.ofBytes? response.body) (some description)
  if response.status = TransportError.unauthorized then .authentication message
  else .request response.status message

/-- The error of a request without a complete response. -/
def silence (client : Client) (failure : Http.Failure) : TransportError :=
  .network (TransportError.wording none (some (failure.message client.timeoutMillis)))

/-- Makes of an outcome what the caller gets, and reports it. -/
def conclude {α : Type} (client : Client) (decode : ByteArray → Option α) (method : String)
    (url : Url) (outcome : Http.Outcome) (w : World) : Except TransportError (Answer α) × World :=
  let unanswered (failure : Http.Failure) : Except TransportError (Answer α) × World :=
    let error := client.silence failure
    (.error error, w.log (.unanswered method url.text error.message))
  match outcome with
  | .failed failure => unanswered failure
  | .received _ _ false => unanswered .bodyCut
  | .received _ response true =>
    if response.isSuccess then
      ((readBody decode response).map fun data => ⟨data, response.status, response.headers⟩,
        w.log (.answered response.status method url.text))
    else
      let error := refusal response
      (.error error, w.log (.refused response.status method url.text error.message))

/-- Makes a request: `decode` says how to read the body of an accepted response. -/
def request {α : Type} (client : Client) (decode : ByteArray → Option α) (method path : String)
    (body : Option String) (w : World) : Except TransportError (Answer α) × World :=
  match client.urlFor path with
  | .error e => (.error e, w)
  | .ok url =>
    let (outcome, w) := client.deliver (Http.Request.to method url body) w
    client.conclude decode method url outcome w

end Client

end TeacherRegistry
