import TeacherRegistry.Client.Basic
import TeacherRegistry.Json.Printer

/-!
The session of the operator: logging in by name or as a guest, asking the server whether the token
still holds, and logging out. A login stores the token, and beside it the profile: everything else
that the server said.
-/

namespace TeacherRegistry.Session

open Json (Value)

inductive Error where
  | transport (e : TransportError)
  | store (e : Store.Error)
  /-- The server accepted the login but gave no token. -/
  | missingToken
deriving Repr, DecidableEq

/-- What is said about an error, given the reasons for those of the store. -/
def Error.message (e : Error) (reason : Store.Error → String := fun _ => "") : String :=
  match e with
  | .transport e => e.message
  | .store e => e.message (reason e)
  | .missingToken => "Login response did not contain a token"

def loginPath : String := "/auth/login"
def guestPath : String := "/auth/guest"
def validatePath : String := "/auth/validate"

/-- The body of a login. -/
def loginBody (username password : String) : String :=
  String.ofList ("\x7b\"username\":".toList ++ Json.quotedText username
    ++ ",\"password\":".toList ++ Json.quotedText password ++ ['\x7d'])

/-- The body of a guest login: an object without members. -/
def guestBody : String := "\x7b\x7d"

/-- The token and the profile in the answer to a login. -/
def credentials? : Option Value → Option (String × Value)
  | some (.object members) =>
    match Dictionary.get? members Store.tokenKey with
    | some (.string token) =>
      if Text.isBlank token then none
      else some (token, .object (Dictionary.erase Store.tokenKey members))
    | _ => none
  | _ => none

/-- Stores the answer to a login and gives the profile. -/
def keep (data : Option Value) (w : World) : Except Error Value × World :=
  match credentials? data with
  | none => (.error .missingToken, w)
  | some (token, profile) =>
    match w.put Store.tokenKey token with
    | (.error e, w) => (.error (.store e), w)
    | (.ok (), w) =>
      match w.put Store.userKey profile.text with
      | (.error e, w) => (.error (.store e), w)
      | (.ok (), w) => (.ok profile, w.log .sessionStored)

/-- Does something as part of an operation. -/
def within {α : Type} (span : Log.Span) (act : World → α × World) (w : World) : α × World :=
  let (result, w) := act (w.enter span)
  (result, w.leave)

/-- Asks for a session and stores it. -/
def open? (client : Client) (path body : String) (w : World) : Except Error Value × World :=
  match client.request Value.ofBytes? "POST" path (some body) w with
  | (.error e, w) => (.error (.transport e), w)
  | (.ok answer, w) => keep answer.data w

/-- Logs in by name and password. -/
def login (client : Client) (username password : String) (w : World) :
    Except Error Value × World :=
  within (.login username) (open? client loginPath (loginBody username password)) w

/-- Logs in as a guest. -/
def loginAsGuest (client : Client) (w : World) : Except Error Value × World :=
  within .loginAsGuest (open? client guestPath guestBody) w

/-- What the answer to a validation means. -/
def verdict (answer : Except TransportError (Answer Value)) : Except Error Bool :=
  match answer with
  | .ok _ => .ok true
  | .error (.authentication _) => .ok false
  | .error e => .error (.transport e)

/-- Asks the server whether the token still holds. -/
def validate (client : Client) (w : World) : Except Error Bool × World :=
  within .validate (fun w =>
    let (answer, w) := client.request Value.ofBytes? "GET" validatePath none w
    (verdict answer, w)) w

/-- Forgets the session. -/
def logout (w : World) : Except Store.Error Unit × World :=
  match w.remove Store.tokenKey with
  | (.error e, w) => (.error e, w)
  | (.ok (), w) =>
    match w.remove Store.userKey with
    | (.error e, w) => (.error e, w)
    | (.ok (), w) => (.ok (), w.log .sessionCleared)

/-- Whether a token is stored that is not blank. -/
def isLoggedIn (store : Store) : Except Store.Error Bool :=
  (store.get? Store.tokenKey).map fun token => token.any fun t => !Text.isBlank t

/-- The stored profile. -/
def user (store : Store) : Except Store.Error (Option Value) :=
  match store.get? Store.userKey with
  | .error e => .error e
  | .ok none => .ok none
  | .ok (some text) =>
    match Value.ofString? text with
    | some profile => .ok (some profile)
    | none => .error .corrupt

end TeacherRegistry.Session
