import TeacherRegistry.Proofs.AcceptedBases
import TeacherRegistry.Proofs.Attempts
import TeacherRegistry.Proofs.FirstRequests

/-!
# Credentials stay where they belong

No path makes a request leave the server that the client is bound to, whatever is written in it. A
redirection may lead elsewhere, but credentials do not follow it, and they are not attached again
behind it. So a request with credentials goes to the host and port that were configured.
-/

namespace TeacherRegistry

open Http (Hop)

/-- A request that carries credentials to no other host and port than those of an address. -/
def Http.Request.StaysAt (home : Url) (request : Http.Request) : Prop :=
  ∀ credentials, request.authorization = some credentials →
    request.url.host = home.host ∧ request.url.effectivePort? = home.effectivePort?

theorem Http.Request.StaysAt.next {home : Url} {hop : Hop} {next : Http.Request}
    (stays : hop.request.StaysAt home) (turn : hop.turn = .redirected next) :
    next.StaysAt home := by
  obtain ⟨status, redirected, url, _, same, rfl⟩ := Http.next_of_turn turn
  intro credentials carried
  -- a redirection changes method and body, but neither address nor credentials
  have kept : redirected.authorization = hop.request.authorization ∧
      redirected.url = hop.request.url := by
    unfold Http.Request.redirected? at same
    repeat' split at same
    all_goals cases same
    all_goals exact ⟨rfl, rfl⟩
  simp only [Http.Request.moveTo] at carried ⊢
  split at carried
  next within =>
    rw [kept.1] at carried
    rw [kept.2, Url.sameOrigin, Bool.and_eq_true, beq_iff_eq, beq_iff_eq] at within
    obtain ⟨host, port⟩ := stays credentials carried
    exact ⟨within.1.trans host, within.2.trans port⟩
  · cases carried

namespace Client

variable {client : Client} {base url : Url} {path : String}

/-- A client is bound to an address, and what was configured is this one with slashes behind it. -/
theorem bound_of_ofConfig {config : Config} (accepted : ofConfig config = .ok client) :
    (∃ base, Url.parse client.baseUrl = .ok base) ∧
      (config.baseUrl = client.baseUrl ∨
        ∃ slashes, config.baseUrl = client.baseUrl ++ "/" ++ String.ofList slashes) := by
  obtain ⟨text, bound⟩ := baseUrl_of_ofConfig accepted
  rw [text]
  exact ⟨text ▸ bound, (Url.withoutSlashes_cases config.baseUrl).imp_right
    fun ⟨slashes, _, same⟩ => ⟨slashes, same⟩⟩

end Client

namespace Call

variable {α : Type} {client : Client} {base : Url}

/-- A client that is not bound to a network address makes no requests. -/
theorem network_of_hop (bound : Url.parse client.baseUrl = .ok base)
    {decode : ByteArray → Option α} {method path : String} {body : Option String} {w : World}
    {hop : Hop} (among : hop ∈ (Call.of client decode method path body w).news.hops) :
    Url.IsNetwork base.scheme := by
  cases address : client.urlFor path with
  | error e =>
    rw [hops_of_unaddressed address] at among
    cases among
  | ok url =>
    obtain ⟨news, proceeds⟩ := client.request_proceeds decode method body w address
    have same : (Call.of client decode method path body w).news = news :=
      World.since_eq proceeds.grown
    have first := proceeds.first
    split at first
    next arrives =>
      have http : url.requested.isHttp = true :=
        (Bool.and_eq_true_iff.mp (Bool.and_eq_true_iff.mp arrives).1).1
      obtain ⟨username, password, requested⟩ := url.requested_eq
      have network := Url.isNetwork_of_isHttp http
      rw [requested] at network
      rw [← Url.scheme_behind bound (Client.parse_of_urlFor address)]
      exact network
    · rw [Option.map_eq_none_iff, List.head?_eq_none_iff] at first
      rw [same, first] at among
      cases among

/-- Every request of a call keeps its credentials at the server that the client is bound to. -/
theorem stays (bound : Url.parse client.baseUrl = .ok base)
    {decode : ByteArray → Option α} {method path : String} {body : Option String} {w : World} :
    ∀ hop ∈ (Call.of client decode method path body w).news.hops, hop.request.StaysAt base := by
  intro hop among
  have network := network_of_hop bound among
  refine keeps (fun stays turn => stays.next turn) ?_ hop among
  intro url v address credentials _
  obtain ⟨path, query, fragment, rfl⟩ :=
    Url.parse_behind bound network (Client.parse_of_urlFor address)
  obtain ⟨authorization, same⟩ := Client.authorize_eq
    (Http.Request.to method { base with path, query, fragment } body) v
  obtain ⟨username, password, requested⟩ :=
    Url.requested_eq { base with path, query, fragment }
  rw [same]
  show Url.host (Url.requested _) = _ ∧ Url.effectivePort? (Url.requested _) = _
  rw [requested]
  exact ⟨rfl, rfl⟩

end Call

theorem Course.stays {client : Client} {base : Url} {u w : World} {calls : List Call}
    (course : Course client u calls w) (bound : Url.parse client.baseUrl = .ok base) :
    ∀ call ∈ calls, ∀ hop ∈ call.news.hops,
      Url.IsNetwork base.scheme ∧ hop.request.StaysAt base := by
  induction course with
  | rest w =>
    intro call among
    cases among
  | aside _ _ ih => exact ih
  | call decode method path body rest ih =>
    intro call among hop sent
    rcases List.mem_cons.mp among with rfl | later
    · exact ⟨Call.network_of_hop bound sent, Call.stays bound hop sent⟩
    · exact ih call later hop sent

/-- What was configured is at the same host and port as the address that the client is bound to. -/
theorem Http.Request.StaysAt.configured {config : Config} {client : Client} {base home : Url}
    {request : Http.Request} (accepted : Client.ofConfig config = .ok client)
    (bound : Url.parse client.baseUrl = .ok base) (network : Url.IsNetwork base.scheme)
    (stays : request.StaysAt base) (configured : Url.parse config.baseUrl = .ok home) :
    request.StaysAt home := by
  rcases (Client.bound_of_ofConfig accepted).2 with same | ⟨slashes, same⟩
  · rw [same, bound] at configured
    cases configured
    exact stays
  · rw [same] at configured
    obtain ⟨path, query, fragment, rfl⟩ := Url.parse_behind bound network configured
    exact stays

/-- Whatever is configured, asked for and replied, every request of a client that carries credentials,
as the bearer token is, goes to the host and port of the configured address: the requests of a call
with any path, method and body in any world, and those of any run of a desk. -/
theorem Client.credentials_stay {config : Config} {client : Client}
    (accepted : Client.ofConfig config = .ok client) :
    ∃ base, Url.parse client.baseUrl = .ok base ∧
      ∀ home, home = base ∨ Url.parse config.baseUrl = .ok home →
        (∀ {α : Type} (decode : ByteArray → Option α) (method path : String)
          (body : Option String) (w : World),
          ∀ request ∈ (Call.of client decode method path body w).news.requests,
            request.StaysAt home) ∧
        ∀ (controller : Controller) (w : World) (steps : List Desk.Step),
          ∀ request ∈ ((Desk.run ⟨client, controller, w⟩ steps).world.since w).requests,
            request.StaysAt home := by
  obtain ⟨⟨base, bound⟩, _⟩ := Client.bound_of_ofConfig accepted
  refine ⟨base, bound, ?_⟩
  intro home homely
  have moved : ∀ {request : Http.Request}, Url.IsNetwork base.scheme → request.StaysAt base →
      request.StaysAt home := by
    intro request network stays
    rcases homely with rfl | configured
    · exact stays
    · exact stays.configured accepted bound network configured
  constructor
  · intro α decode method path body w request sent
    rw [Journal.requests_eq] at sent
    obtain ⟨hop, among, rfl⟩ := List.mem_map.mp sent
    exact moved (Call.network_of_hop bound among) (Call.stays bound hop among)
  · intro controller w steps request sent
    obtain ⟨calls, course⟩ := Desk.leads_run ⟨client, controller, w⟩ steps
    obtain ⟨news, grown, hops, _⟩ := course.grows
    rw [World.since_eq grown, Journal.requests_eq, hops] at sent
    obtain ⟨hop, among, rfl⟩ := List.mem_map.mp sent
    obtain ⟨call, made, among⟩ := List.mem_flatMap.mp among
    obtain ⟨network, stays⟩ := course.stays bound call made hop among
    exact moved network stays

/-- A client with a token, whose server sends it on to another port. -/
def Desk.sentAway : Desk :=
  { Desk.sample with world := { Desk.sample.world with
      credentials := .fixed (some "t")
      farEnd := .script [.answer ⟨307, [("location", "http://127.0.0.1:9999/other")], .empty⟩] } }

theorem Client.credentials_stay_sentAway :
    let news := ((Desk.sentAway.act .load).2.world.since Desk.sentAway.world).requests
    news.map (fun request => (request.url.effectivePort?, request.authorization)) =
        [(some 8081, some "Bearer t"), (some 9999, none)] ∧
      ∃ base, Url.parse "http://127.0.0.1:8081/api" = .ok base ∧
        ∀ request ∈ news, request.StaysAt base := by
  intro news
  have accepted : Client.ofConfig { Config.default with
      baseUrl := "http://127.0.0.1:8081/api/", maxRetries := 0 } = .ok Desk.sample.client := by
    decide +kernel
  obtain ⟨base, bound, law⟩ := Client.credentials_stay accepted
  refine ⟨by decide +kernel, base, bound, ?_⟩
  exact (law base (Or.inl rfl)).2 .initial Desk.sentAway.world
    [⟨Desk.sentAway.world.farEnd, .load⟩]

end TeacherRegistry
