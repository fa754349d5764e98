import TeacherRegistry.Proofs.Operations

/-!
# The first request of an operation

Whatever becomes of an operation of the controller, its first request is that of the call it begins
with: a call that has been answered has sent a request, so no request of the reload comes before it.
-/

namespace TeacherRegistry

/-- An address as it stands in requests: the credentials in it go into a header. -/
def Url.requested (url : Url) : Url :=
  if (Http.basicAuthorization? url).isSome then { url with username := [], password := [] } else url

/-- Only the credentials of an address are left out of requests. -/
theorem Url.requested_eq (url : Url) :
    ∃ username password, url.requested = { url with username, password } := by
  unfold requested
  split
  · exact ⟨[], [], rfl⟩
  · exact ⟨url.username, url.password, rfl⟩

theorem Url.isSendable_requested {url base : Url} (scheme : url.scheme = base.scheme)
    (host : url.host = base.host) : Http.isSendable url.requested = Http.isSendable base := by
  obtain ⟨username, password, same⟩ := url.requested_eq
  rw [same, Http.isSendable, Http.isSendable, Url.isHttp, Url.isHttp, scheme, host]

/-- A request for a path below the address of a client. -/
structure Http.Request.Asks (request : Http.Request) (client : Client) (method path : String)
    (body : Option String) : Prop where
  address : ∃ url, client.urlFor path = .ok url ∧ request.url = url.requested
  method : request.method = method
  body : request.body = body.getD ""

/-- Two requests for one path go to one address. -/
theorem Http.Request.Asks.url_eq {client : Client} {path method method' : String}
    {body body' : Option String} {first second : Http.Request}
    (asks : first.Asks client method path body) (asks' : second.Asks client method' path body') :
    first.url = second.url := by
  obtain ⟨url, address, target⟩ := asks.address
  obtain ⟨url', address', target'⟩ := asks'.address
  cases address.symm.trans address'
  rw [target, target']

namespace Client

/-- The first request of a call, if it gets to the far end. -/
def firstRequest? (client : Client) (method path : String) (body : Option String)
    (w : World) : Option Http.Request :=
  (client.urlFor path).toOption.bind fun url =>
    if (Http.Request.to method url body).reaches w.farEnd then
      some (authorize (Http.Request.to method url body) w).1
    else none

variable {α : Type} {client : Client} {decode : ByteArray → Option α} {method path : String}
  {body : Option String} {w v : World}

theorem head?_requests_of_request {result : Except TransportError (Answer α)}
    (called : client.request decode method path body w = (result, v)) :
    (v.since w).requests.head? = client.firstRequest? method path body w := by
  unfold firstRequest?
  cases address : client.urlFor path with
  | error e =>
    simp only [request, address] at called
    cases called
    rw [World.since_self]
    rfl
  | ok url =>
    obtain ⟨news, proceeds⟩ := client.request_proceeds decode method body w address
    rw [called] at proceeds
    rw [World.since_eq proceeds.grown, Journal.requests_eq, List.head?_map]
    exact proceeds.first

/-- Without a request there is no reply, and so no answer. -/
theorem requests_of_answered {answer : Answer α}
    (called : client.request decode method path body w = (.ok answer, v)) :
    (v.since w).requests ≠ [] := by
  intro nothing
  cases address : client.urlFor path with
  | error e =>
    simp only [request, address] at called
    cases called
  | ok url =>
    obtain ⟨news, proceeds⟩ := client.request_proceeds decode method body w address
    rw [called] at proceeds
    rw [World.since_eq proceeds.grown, Journal.requests_eq, List.map_eq_nil_iff] at nothing
    obtain ⟨outcome, u, ends, concluded⟩ := proceeds.ends
    rw [nothing] at ends
    obtain ⟨failure, rfl⟩ := ends
    cases concluded

theorem eq_of_firstRequest? {request : Http.Request}
    (first : client.firstRequest? method path body w = some request) :
    ∃ url, client.urlFor path = .ok url ∧ request.method = method ∧
      request.url = url.requested ∧ request.body = body.getD "" := by
  unfold firstRequest? at first
  obtain ⟨url, address, sent⟩ := Option.bind_eq_some_iff.mp first
  split at sent
  · obtain ⟨authorization, same⟩ := authorize_eq (Http.Request.to method url body) w
    rw [same] at sent
    cases sent
    cases found : client.urlFor path with
    | error e =>
      rw [found] at address
      cases address
    | ok held =>
      rw [found] at address
      cases address
      exact ⟨url, rfl, rfl, rfl, rfl⟩
  · cases sent

theorem asks_of_firstRequest? {request : Http.Request}
    (first : client.firstRequest? method path body w = some request) :
    request.Asks client method path body := by
  obtain ⟨url, address, made, target, carried⟩ := eq_of_firstRequest? first
  exact ⟨⟨url, address, target⟩, made, carried⟩

/-- A path has an address that can be requested, at a far end that can be reached. -/
def Reaches (client : Client) (path : String) (farEnd : Http.FarEnd) : Prop :=
  ∃ url, client.urlFor path = .ok url ∧ Http.isSendable url.requested = true ∧
    farEnd.isReachable = true

theorem firstRequest?_isSome_iff : (client.firstRequest? method path body w).isSome = true ↔
    client.Reaches path w.farEnd := by
  have arrives : ∀ url, (Http.Request.to method url body).reaches w.farEnd = true ↔
      Http.isSendable url.requested = true ∧ w.farEnd.isReachable = true := fun url =>
    Bool.and_eq_true_iff
  unfold firstRequest? Reaches
  cases address : client.urlFor path with
  | error e => simp [Except.toOption]
  | ok url => simp [Except.toOption, arrives]

end Client

namespace Controller

variable (client : Client) (c : Controller) (w : World)

private theorem head?_requests_append {earlier later : Journal} (filled : earlier.requests ≠ []) :
    (Journal.requests (earlier ++ later)).head? = earlier.requests.head? := by
  rw [Journal.requests_append]
  exact List.head?_append_of_ne_nil _ filled

private theorem head?_requests_silent {earlier later : Journal} (silent : later.hops = []) :
    (Journal.requests (earlier ++ later)).head? = earlier.requests.head? := by
  rw [Journal.requests_append, Journal.requests_eq later, silent, List.map_nil, List.append_nil]

private theorem head?_requests_after_silent {earlier later : Journal} (silent : earlier.hops = []) :
    (Journal.requests (earlier ++ later)).head? = later.requests.head? := by
  rw [Journal.requests_append, Journal.requests_eq earlier, silent, List.map_nil, List.nil_append]

private theorem head?_requests_of_save :
    ((save client c w).world.since w).requests.head? = c.plan.toOption.bind fun plan =>
      client.firstRequest? plan.2.1 plan.2.2 (some c.draft.json) w := by
  have ends := saving_save client c w
  generalize save client c w = effect at ends
  cases ends with
  | invalid planned =>
    rw [planned, Journal.requests_eq, notifyFailure, (World.silent_notify w _ _).hops_since]
    rfl
  | @refused outcome method path e v planned called =>
    have told := World.silent_notify v .failure (saveFailure ++ ": " ++ e.message)
    have precedes := client.precedes_of_request called
    simp only [planned, Except.toOption, Option.bind_some,
      ← Client.head?_requests_of_request called, notifyFailure,
      World.since_trans precedes told.precedes, head?_requests_silent told.hops_since]
  | @accepted outcome method path answer u v later planned called reloaded =>
    -- the call was answered, so it has made a request, and those of the reload come after it
    have precedes := client.precedes_of_request called
    have after := precedes_of_reload reloaded
    simp only [planned, Except.toOption, Option.bind_some,
      ← Client.head?_requests_of_request called, World.since_trans precedes after,
      head?_requests_append (Client.requests_of_answered called)]

/-- The first request of a submission is the one that is planned for the draft. -/
theorem head?_requests_of_submit :
    ((submit client c w).world.since w).requests.head? = c.plan.toOption.bind fun plan =>
      client.firstRequest? plan.2.1 plan.2.2 (some c.draft.json) (w.enter (.submit c.editing)) := by
  rw [submit, since_within, head?_requests_of_save]

private theorem head?_requests_of_erase (id : TeacherId) :
    ((eraseIfConfirmed client c id w).world.since w).requests.head? =
      if (w.ask deleteQuestion).1 then
        client.firstRequest? "DELETE" (itemPath id) none (w.ask deleteQuestion).2
      else none := by
  have ends := erasing_erase client c w id
  have silent := w.silent_ask deleteQuestion
  generalize eraseIfConfirmed client c id w = effect at ends
  cases ends with
  | @declined v asked =>
    rw [asked] at silent ⊢
    rw [if_neg Bool.false_ne_true, Journal.requests_eq,
      (silent.trans (World.silent_log v .deleteDeclined)).hops_since]
    rfl
  | @refused e u v asked called =>
    rw [asked] at silent ⊢
    have told := World.silent_notify u .failure (deleteFailure ++ ": " ++ e.message)
    have precedes := client.precedes_of_request called
    rw [if_pos rfl, ← Client.head?_requests_of_request called, notifyFailure,
      World.since_trans silent.precedes (precedes.trans told.precedes),
      World.since_trans precedes told.precedes, head?_requests_after_silent silent.hops_since,
      head?_requests_silent told.hops_since]
  | @accepted answer t u v later asked called reloaded =>
    rw [asked] at silent ⊢
    have precedes := client.precedes_of_request called
    have after := precedes_of_reload reloaded
    rw [if_pos rfl, ← Client.head?_requests_of_request called,
      World.since_trans silent.precedes (precedes.trans after), World.since_trans precedes after,
      head?_requests_after_silent silent.hops_since,
      head?_requests_append (Client.requests_of_answered called)]

/-- The first request of a deletion is made after the question, if the operator agrees. -/
theorem head?_requests_of_delete (id : TeacherId) :
    let asked := (w.enter (.delete id.display)).ask deleteQuestion
    ((delete client c id w).world.since w).requests.head? =
      if asked.1 then client.firstRequest? "DELETE" (itemPath id) none asked.2 else none := by
  intro asked
  rw [delete, since_within, head?_requests_of_erase]

end Controller

end TeacherRegistry
