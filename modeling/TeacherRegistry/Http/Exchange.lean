import TeacherRegistry.Http.Message

/-!
Exchanges. A request is sent, and where the response redirects it, it is sent again to the place
named there, up to a fixed number of times. What comes of it is the last response, or the reason why
there is none; every request that reached the far end is kept with the reply to it.
-/

namespace TeacherRegistry.Http

/-- What came of a request: the response to the last request of the exchange, which may be
incomplete, or none. -/
inductive Outcome where
  | received (url : Url) (response : Response) (complete : Bool)
  | failed (failure : Failure)

/-- A request that reached the far end, with the reply to it. -/
structure Hop where
  request : Request
  reply : Reply

structure Exchange where
  outcome : Outcome
  farEnd : FarEnd
  hops : List Hop

/-- The greatest number of redirections that are followed. -/
def redirectLimit : Nat := 10

/-- Whether requests can be made to an address: it is a network address, and its host has no
character that is not written in requests. -/
def isSendable (url : Url) : Bool :=
  url.isHttp && url.host.all fun host => !host.text.any "\"\x60\x7b\x7d".toList.contains

/-- The request as a request without body for the same thing. -/
def Request.asGet (request : Request) : Request :=
  { request with method := "GET", body := "", contentType := none }

/-- The request that a response status asks for instead, `none` if the status does not redirect. -/
def Request.redirected? (request : Request) (status : Nat) : Option Request :=
  if status = 301 ∨ status = 302 then
    some (if request.method = "POST" then request.asGet else request)
  else if status = 303 then
    some (if request.method = "HEAD" then { request with body := "", contentType := none }
      else request.asGet)
  else if status = 307 ∨ status = 308 then some request
  else none

/-- The request moved to another address. Credentials do not follow it to another host or port. -/
def Request.moveTo (request : Request) (url : Url) : Request :=
  { request with
    url
    authorization := if url.sameOrigin request.url then request.authorization else none }

/-- The request that a response sends its sender to. -/
def Request.next? (request : Request) (response : Response) : Option Request := do
  let redirected ← request.redirected? response.status
  let location ← response.header? "location"
  let url ← (Url.join request.url location).toOption
  return redirected.moveTo url

/-- What one request led to: the end of the exchange, or a redirection. -/
inductive Turn where
  | ended (outcome : Outcome)
  | redirected (next : Request)

/-- What a response to a request leads to, its body having arrived in full or not. -/
def Turn.of (request : Request) (response : Response) (arrived : Bool) : Turn :=
  match request.next? response with
  | none =>
    let (response, complete) := response.answering request.method arrived
    .ended (.received request.url response complete)
  | some next => .redirected next

/-- Sends one request. -/
def send (farEnd : FarEnd) (request : Request) : Turn × FarEnd × List Hop :=
  let url := request.url.text
  if !isSendable request.url then (.ended (.failed (.unsendable url)), farEnd, [])
  else
    match farEnd.next with
    | (none, farEnd) => (.ended (.failed (.unsent url)), farEnd, [])
    | (some reply, farEnd) =>
      let turn := match reply with
        | .answer response => Turn.of request response true
        | .cut response => Turn.of request response false
        | .drop => .ended (.failed (.unsent url))
        | .hang => .ended (.failed .timedOut)
      (turn, farEnd, [⟨request, reply⟩])

/-- Sends a request and follows redirections, at most `room` of them. -/
def exchange (room : Nat) (farEnd : FarEnd) (request : Request) : Exchange :=
  match send farEnd request with
  | (.ended outcome, farEnd, hops) => ⟨outcome, farEnd, hops⟩
  | (.redirected next, farEnd, hops) =>
    match room with
    | 0 => ⟨.failed (.redirectLimit request.url.text), farEnd, hops⟩
    | room + 1 =>
      let rest := exchange room farEnd next
      { rest with hops := hops ++ rest.hops }

/-- Whether the same request may fare better at another time. -/
def Outcome.isTransient : Outcome → Bool
  | .received _ response _ =>
    (500 ≤ response.status && response.status < 600) || response.status == 408
      || response.status == 429
  | .failed failure => failure.isTransient

end TeacherRegistry.Http
