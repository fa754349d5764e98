import TeacherRegistry.Session

/-!
# The bodies of requests

Nothing that the client does goes by the body of a request: neither where the request is sent and
what comes of it, nor what is reported, stored and handed on. So leaving the bodies out of the
history before a call comes to the same as leaving them out after it, and two calls that differ in
their bodies differ in nothing else.
-/

namespace TeacherRegistry

open Http (Exchange FarEnd Hop Outcome Turn)

namespace Http

/-- A request without its body. -/
def Request.withoutBody (request : Request) : Request := { request with body := "" }

def Hop.withoutBody (hop : Hop) : Hop := { hop with request := hop.request.withoutBody }

def Turn.withoutBody : Turn → Turn
  | .ended outcome => .ended outcome
  | .redirected next => .redirected next.withoutBody

variable (request : Request) (farEnd : FarEnd)

theorem redirected?_withoutBody (status : Nat) :
    request.withoutBody.redirected? status =
      (request.redirected? status).map Request.withoutBody := by
  unfold Request.redirected?
  repeat' split
  all_goals first | rfl | contradiction

theorem next?_withoutBody (response : Response) :
    request.withoutBody.next? response = (request.next? response).map Request.withoutBody := by
  unfold Request.next?
  rw [redirected?_withoutBody]
  cases request.redirected? response.status with
  | none => rfl
  | some redirected =>
    cases response.header? "location" with
    | none => rfl
    | some location =>
      have same : request.withoutBody.url = request.url := rfl
      simp only [Option.map_some, bind, Option.bind_some, same]
      cases (Url.join request.url location).toOption <;> rfl

theorem turnOf_withoutBody (response : Response) (arrived : Bool) :
    Turn.of request.withoutBody response arrived =
      (Turn.of request response arrived).withoutBody := by
  unfold Turn.of
  rw [next?_withoutBody]
  cases request.next? response <;> rfl

theorem send_withoutBody :
    send farEnd request.withoutBody =
      ((send farEnd request).1.withoutBody, (send farEnd request).2.1,
        (send farEnd request).2.2.map Hop.withoutBody) := by
  have same : request.withoutBody.url = request.url := rfl
  unfold send
  simp only [same]
  split
  · rfl
  · split
    · rfl
    next reply later _ =>
      cases reply with
      | answer response => simp only [turnOf_withoutBody]; rfl
      | cut response => simp only [turnOf_withoutBody]; rfl
      | drop => rfl
      | hang => rfl

/-- Only the requests that are kept tell of their bodies. -/
theorem exchange_withoutBody (room : Nat) :
    exchange room farEnd request.withoutBody =
      { exchange room farEnd request with
        hops := (exchange room farEnd request).hops.map Hop.withoutBody } := by
  induction room generalizing farEnd request with
  | zero =>
    rw [exchange, exchange, send_withoutBody]
    rcases send farEnd request with ⟨turn, later, hops⟩
    cases turn <;> rfl
  | succ room ih =>
    rw [exchange, exchange, send_withoutBody]
    rcases send farEnd request with ⟨turn, later, hops⟩
    cases turn with
    | ended outcome => rfl
    | redirected next =>
      -- what the redirection leads to is requested without body as well
      simp only [Turn.withoutBody, ih, List.map_append]

end Http

/-! ### The history -/

def Entry.withoutBody : Entry → Entry
  | .sent hop => .sent hop.withoutBody
  | entry => entry

def Journal.withoutBodies (journal : Journal) : Journal := journal.map Entry.withoutBody

namespace Journal

variable (journal : Journal)

theorem requests_withoutBodies :
    journal.withoutBodies.requests = journal.requests.map Http.Request.withoutBody := by
  unfold requests withoutBodies
  rw [List.filterMap_map, List.map_filterMap]
  congr 1
  funext entry
  cases entry <;> rfl

theorem events_withoutBodies : journal.withoutBodies.events = journal.events := by
  unfold events withoutBodies
  rw [List.filterMap_map]
  congr 1
  funext entry
  cases entry <;> rfl

/-- A view of the entries that does not look at requests is the same without their bodies. -/
theorem map_withoutBodies {β : Type} {view : Entry → β}
    (blind : ∀ hop : Hop, view (.sent hop.withoutBody) = view (.sent hop)) :
    journal.withoutBodies.map view = journal.map view := by
  unfold withoutBodies
  rw [List.map_map]
  congr 1
  funext entry
  cases entry with
  | sent hop => exact blind hop
  | _ => rfl

end Journal

namespace World

/-- The same world with a history that does not tell the bodies of requests. -/
def withoutBodies (w : World) : World := { w with journal := w.journal.withoutBodies }

variable (w : World)

@[simp] theorem reason_withoutBodies : w.withoutBodies.reason = w.reason := rfl

theorem append_withoutBodies (entries : Journal) :
    (w.append entries).withoutBodies = w.withoutBodies.append entries.withoutBodies := by
  simp only [withoutBodies, append, Journal.withoutBodies, List.map_append]

@[simp] theorem logAll_withoutBodies (events : List Log.Event) :
    w.withoutBodies.logAll events = (w.logAll events).withoutBodies := by
  have same : (events.map fun event => Entry.logged event w.spans).map Entry.withoutBody =
      events.map fun event => Entry.logged event w.spans := by
    rw [List.map_map]
    rfl
  simp only [logAll, withoutBodies, append, Journal.withoutBodies, List.map_append, same]

@[simp] theorem log_withoutBodies (event : Log.Event) :
    w.withoutBodies.log event = (w.log event).withoutBodies :=
  logAll_withoutBodies w [event]

theorem record_withoutBodies (entry : Entry) :
    (w.record entry).withoutBodies = w.withoutBodies.record entry.withoutBody :=
  append_withoutBodies w [entry]

@[simp] theorem token_withoutBodies :
    w.withoutBodies.token = (w.token.1, w.token.2.withoutBodies) := by
  have credentials : w.withoutBodies.credentials = w.credentials := rfl
  have store : w.withoutBodies.store = w.store := rfl
  unfold token
  simp only [credentials, store, log_withoutBodies]
  split
  · rfl
  · split <;> rfl

theorem apply_withoutBodies (change : Store.Change) :
    w.withoutBodies.apply change = ((w.apply change).1, (w.apply change).2.withoutBodies) :=
  congrArg (Prod.mk _) (logAll_withoutBodies { w with store := change.store } change.events)

theorem evictKey_withoutBodies (key : String) :
    w.withoutBodies.evictKey key = (w.evictKey key).withoutBodies := by
  have removed : w.withoutBodies.remove key = ((w.remove key).1, (w.remove key).2.withoutBodies) :=
    apply_withoutBodies w _
  unfold evictKey
  rw [removed]
  rcases w.remove key with ⟨outcome, v⟩
  cases outcome with
  | ok => rfl
  | error e => exact log_withoutBodies v _

theorem evict_withoutBodies : w.withoutBodies.evict = w.evict.withoutBodies := by
  have credentials : w.withoutBodies.credentials = w.credentials := rfl
  unfold evict
  simp only [credentials, evictKey_withoutBodies]
  split <;> rfl

theorem expire_withoutBodies (route : String) :
    w.withoutBodies.expire route = (w.expire route).withoutBodies := by
  have expiry : w.withoutBodies.expiry = w.expiry := rfl
  unfold expire
  simp only [expiry, log_withoutBodies]
  split
  · rfl
  · rw [record_withoutBodies]
    rfl
  · rw [record_withoutBodies]
    rfl

end World

/-! ### Calls -/

namespace Client

variable (client : Client) (request : Http.Request) (w : World)

theorem authorize_withoutBody : authorize request.withoutBody w.withoutBodies =
    ((authorize request w).1.withoutBody, (authorize request w).2.withoutBodies) := by
  have method : request.withoutBody.method = request.method := rfl
  have url : request.withoutBody.url = request.url := rfl
  unfold authorize
  rw [World.token_withoutBodies]
  rcases w.token with ⟨token, v⟩
  cases token with
  | none => simp only [World.log_withoutBodies, method, url]
  | some text =>
    simp only [World.log_withoutBodies, method, url]
    split <;> rfl

theorem attempt_withoutBody : attempt request.withoutBody w.withoutBodies =
    ((attempt request w).1, (attempt request w).2.withoutBodies) := by
  unfold attempt
  -- the token is added to the request whatever its body
  rw [authorize_withoutBody]
  rcases authorize request w with ⟨authorized, v⟩
  have farEnd : v.withoutBodies.farEnd = v.farEnd := rfl
  simp only [Http.exchange_withoutBody, farEnd]
  generalize Http.exchange Http.redirectLimit v.farEnd authorized = exchange
  have sent : (exchange.hops.map Hop.withoutBody).map Entry.sent =
      Journal.withoutBodies (exchange.hops.map Entry.sent) := by
    rw [Journal.withoutBodies, List.map_map, List.map_map]
    rfl
  rw [World.append_withoutBodies, sent]
  rfl

theorem persist_withoutBody (retries : Nat) :
    persist request.withoutBody retries w.withoutBodies =
      ((persist request retries w).1, (persist request retries w).2.withoutBodies) := by
  induction retries generalizing w with
  | zero => exact attempt_withoutBody request w
  | succ retries ih =>
    -- whether the request is made again is told from the outcome, which is the same
    rw [persist, persist, attempt_withoutBody]
    cases attempt request w with
    | mk outcome v =>
      simp only
      split
      · exact ih v
      · rfl

theorem guard_withoutBodies (outcome : Outcome) :
    client.guard outcome w.withoutBodies = (client.guard outcome w).withoutBodies := by
  unfold guard
  split
  · simp only [World.log_withoutBodies, World.evict_withoutBodies, World.expire_withoutBodies]
    split <;> rfl
  · rfl

theorem conclude_withoutBodies {α : Type} (decode : ByteArray → Option α) (method : String)
    (url : Url) (outcome : Outcome) :
    client.conclude decode method url outcome w.withoutBodies =
      ((client.conclude decode method url outcome w).1,
        (client.conclude decode method url outcome w).2.withoutBodies) := by
  unfold conclude
  simp only [World.log_withoutBodies]
  split
  · rfl
  · rfl
  · split <;> rfl

/-- A call with another body comes to the same, and leaves the same behind but for the body. -/
theorem request_withoutBody {α : Type} (decode : ByteArray → Option α) (method path body : String) :
    client.request decode method path (some "") w.withoutBodies =
      ((client.request decode method path (some body) w).1,
        (client.request decode method path (some body) w).2.withoutBodies) := by
  unfold Client.request deliver
  split
  · rfl
  next url address =>
    have bare : Http.Request.to method url (some "") =
        (Http.Request.to method url (some body)).withoutBody := rfl
    simp only [bare, persist_withoutBody, guard_withoutBodies, conclude_withoutBodies]

end Client

/-! ### Sessions -/

namespace Session

open Json (Value)

variable (client : Client) (w : World)

theorem keep_withoutBodies (data : Option Value) :
    keep data w.withoutBodies = ((keep data w).1, (keep data w).2.withoutBodies) := by
  have put : ∀ (v : World) key value, v.withoutBodies.put key value =
      ((v.put key value).1, (v.put key value).2.withoutBodies) := fun v key value =>
    v.apply_withoutBodies (v.store.set key value)
  unfold keep
  split
  · rfl
  next token profile _ =>
    rw [put]
    rcases w.put Store.tokenKey token with ⟨outcome, v⟩
    cases outcome with
    | error e => rfl
    | ok _ =>
      simp only [put]
      rcases v.put Store.userKey profile.text with ⟨outcome, u⟩
      cases outcome with
      | error e => rfl
      | ok _ => simp only [World.log_withoutBodies]

theorem open?_withoutBody (path body : String) :
    open? client path "" w.withoutBodies =
      ((open? client path body w).1, (open? client path body w).2.withoutBodies) := by
  unfold open?
  rw [client.request_withoutBody w Value.ofBytes? "POST" path body]
  rcases client.request Value.ofBytes? "POST" path (some body) w with ⟨outcome, v⟩
  cases outcome with
  | error e => rfl
  | ok answer => simp only [keep_withoutBodies]

theorem login_eq (username password : String) :
    login client username password w =
      let opened := open? client loginPath (loginBody username password) (w.enter (.login username))
      (opened.1, opened.2.leave) := by
  unfold login within
  rfl

/-- The password of a login is in the body of its request, and nothing else that it does depends on
it. -/
theorem login_withoutBody (username password other : String) :
    (login client username other w).1 = (login client username password w).1 ∧
      (login client username other w).2.withoutBodies =
        (login client username password w).2.withoutBodies := by
  -- with either password the login comes to what it comes to without a body
  have opened := fun given =>
    open?_withoutBody client (w.enter (.login username)) loginPath (loginBody username given)
  have same := (opened other).symm.trans (opened password)
  rw [login_eq, login_eq]
  generalize open? client loginPath (loginBody username password) _ = one at same
  generalize open? client loginPath (loginBody username other) _ = two at same
  obtain ⟨result, world⟩ := Prod.mk.inj same
  exact ⟨result, congrArg World.leave world⟩

end Session

end TeacherRegistry
