import TeacherRegistry.Text.Base64
import TeacherRegistry.Text.LowerCase
import TeacherRegistry.Url.Percent
import TeacherRegistry.Url.Parser

/-!
Messages between a client and a server: requests with the headers that the client decides about,
responses as they arrive, and what the far end of the line may do with a request.
-/

namespace TeacherRegistry.Http

/-- A request. All requests ask for JSON. -/
structure Request where
  method : String
  url : Url
  authorization : Option String
  contentType : Option String
  /-- Empty if there is none. -/
  body : String
deriving Repr, DecidableEq

/-- The content type of all bodies that are sent, and of the answers that are asked for. -/
def jsonType : String := "application/json"

/-- Whether a text may stand in a header: it has no controls but tabs. -/
def isHeaderText (s : String) : Bool :=
  s.toList.all fun c => c == '\t' || !Url.isControl c

/-- The credentials that an address carries, as a header. -/
def basicAuthorization? (url : Url) : Option String := do
  let decoded (part : List Char) := String.fromUTF8? ⟨(Url.percentDecode part).toArray⟩
  let name ← decoded url.username
  let password := if url.password = [] then some "" else decoded url.password
  if name = "" ∧ (url.password = [] ∨ password = none) then none
  let login := (name ++ ":" ++ password.getD "").toUTF8.toList
  return "Basic " ++ String.ofList (Text.base64 login)

/-- A request to an address. Credentials that the address carries move to a header. -/
def Request.to (method : String) (url : Url) (body : Option String) : Request :=
  let authorization := basicAuthorization? url
  { method
    url := if authorization.isSome then { url with username := [], password := [] } else url
    authorization
    contentType := body.map fun _ => jsonType
    body := body.getD "" }

/-- A response. A header may occur several times; names are compared without regard to case. -/
structure Response where
  status : Nat
  headers : List (String × String)
  body : ByteArray

namespace Response

/-- The first value of a header. -/
def header? (response : Response) (name : String) : Option String :=
  (response.headers.find? fun header => Text.equalIgnoringAsciiCase header.1 name).map (·.2)

/-- Whether the request was accepted. -/
def isSuccess (response : Response) : Bool :=
  200 ≤ response.status && response.status < 300

/-- Whether the response has no body when it answers a request of this method, whatever comes after
its headers. -/
def isBodiless (response : Response) (method : String) : Bool :=
  method == "HEAD" || response.status == 204 || response.status == 304

/-- The response as an answer to a request of this method, with whether it is complete once its body
has `arrived` in full or not. -/
def answering (response : Response) (method : String) (arrived : Bool) : Response × Bool :=
  if response.isBodiless method then ({ response with body := .empty }, true)
  else (response, arrived)

end Response

/-- What the far end does with one request. -/
inductive Reply where
  | answer (response : Response)
  /-- The headers arrive, but the body ends early. -/
  | cut (response : Response)
  /-- The connection closes without a response. -/
  | drop
  /-- Nothing comes until the time is up. -/
  | hang

/-- The far end of the line. -/
inductive FarEnd where
  /-- No connection can be made. -/
  | unreachable
  /-- Requests are answered with these replies in turn. -/
  | script (replies : List Reply)

/-- The answer of a far end that has no reply left. -/
def notFound : Response :=
  ⟨404, [("content-type", jsonType)], "\x7b\"error\":\"Not Found\"\x7d".toUTF8⟩

/-- What happens to the next request: a reply, or `none` if it does not get there. -/
def FarEnd.next : FarEnd → Option Reply × FarEnd
  | .unreachable => (none, .unreachable)
  | .script [] => (some (.answer notFound), .script [])
  | .script (reply :: rest) => (some reply, .script rest)

/-- Why there is no response to a request. -/
inductive Failure where
  /-- The request did not get there, or the connection closed on it. -/
  | unsent (url : String)
  /-- The time was up. -/
  | timedOut
  /-- Requests cannot be made to such an address. -/
  | unsendable (url : String)
  /-- There were too many redirections, this address being the last one requested. -/
  | redirectLimit (url : String)
  /-- The body of the response ended early. -/
  | bodyCut
deriving Repr, DecidableEq

namespace Failure

def message (timeoutMillis : Nat) : Failure → String
  | .unsent url => "Request error: error sending request for url (" ++ url ++ ")"
  | .timedOut => "timeout of " ++ toString timeoutMillis ++ "ms exceeded"
  | .unsendable url => "Request error: builder error for url (" ++ url ++ ")"
  | .redirectLimit url => "Request error: error following redirect for url (" ++ url ++ ")"
  | .bodyCut => "Request error: error decoding response body"

/-- Whether the same request may fare better at another time. -/
def isTransient : Failure → Bool
  | .unsent _ | .timedOut => true
  | .unsendable _ | .redirectLimit _ | .bodyCut => false

end Failure

end TeacherRegistry.Http
