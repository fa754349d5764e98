import TeacherRegistry.Client.Basic
import TeacherRegistry.Proofs.Exchanges
import TeacherRegistry.Proofs.StoreLaws

/-!
# What a call of the client does

All that can be seen of a call is what it adds to the journal, and what it leaves in the store. Its
first request is the one that was asked for. However often a request is sent again, what comes of it
follows from the very last reply, and that reply alone decides whether the session is given up.
-/

namespace TeacherRegistry

namespace Journal

/-- The requests that reached the far end, with the replies to them. -/
def hops (journal : Journal) : List Http.Hop :=
  journal.filterMap fun
    | .sent hop => some hop
    | _ => none

theorem requests_eq (journal : Journal) : journal.requests = journal.hops.map Http.Hop.request := by
  unfold requests hops
  rw [List.map_filterMap]
  congr 1
  funext entry
  cases entry <;> rfl

@[simp] theorem hops_append (earlier later : Journal) :
    hops (earlier ++ later) = hops earlier ++ hops later := by
  simp only [hops, List.filterMap_append]

@[simp] theorem requests_append (earlier later : Journal) :
    requests (earlier ++ later) = requests earlier ++ requests later := by
  simp only [requests, List.filterMap_append]

@[simp] theorem redirects_append (earlier later : Journal) :
    redirects (earlier ++ later) = redirects earlier ++ redirects later := by
  simp only [redirects, List.filterMap_append]

theorem hops_sent (sent : List Http.Hop) : hops (sent.map Entry.sent) = sent := by
  simp [hops, List.filterMap_map]

theorem redirects_sent (sent : List Http.Hop) : redirects (sent.map Entry.sent) = [] := by
  simp [redirects, List.filterMap_map]

/-- Entries that are neither requests nor send the operator to log in. -/
structure Silent (news : Journal) : Prop where
  hops : Journal.hops news = []
  redirects : Journal.redirects news = []

theorem Silent.append {earlier later : Journal} (first : Silent earlier) (second : Silent later) :
    Silent (earlier ++ later) :=
  ⟨by rw [hops_append, first.hops, second.hops, List.append_nil],
    by rw [redirects_append, first.redirects, second.redirects, List.append_nil]⟩

theorem silent_nil : Silent [] := ⟨rfl, rfl⟩

theorem silent_logged (events : List Log.Event) (spans : List Log.Span) :
    Silent (events.map fun event => Entry.logged event spans) := by
  constructor
  · simp [Journal.hops, List.filterMap_map]
  · simp [Journal.redirects, List.filterMap_map]

end Journal

namespace World

variable {u v w : World}

/-- What the journal of a world has got since an earlier one. -/
def since (w earlier : World) : Journal :=
  w.journal.drop earlier.journal.length

theorem since_eq {news : Journal} (grown : v.journal = w.journal ++ news) : v.since w = news := by
  rw [since, grown, List.drop_left]

theorem since_self (w : World) : w.since w = [] :=
  since_eq (List.append_nil _).symm

/-- The journal only grows by silent entries. -/
def Silent (w v : World) : Prop :=
  ∃ news : Journal, v.journal = w.journal ++ news ∧ news.Silent

theorem Silent.refl (w : World) : w.Silent w :=
  ⟨[], (List.append_nil _).symm, Journal.silent_nil⟩

theorem Silent.trans (first : u.Silent v) (second : v.Silent w) : u.Silent w := by
  obtain ⟨earlier, grown, silent⟩ := first
  obtain ⟨later, grown', silent'⟩ := second
  exact ⟨earlier ++ later, by rw [grown', grown, List.append_assoc], silent.append silent'⟩

/-- What a call of the client goes by is the same. -/
structure Alike (w v : World) : Prop where
  store : v.store = w.store
  credentials : v.credentials = w.credentials
  expiry : v.expiry = w.expiry
  reachable : v.farEnd.isReachable = w.farEnd.isReachable
  reasons : v.reasons = w.reasons

theorem Alike.refl (w : World) : w.Alike w := ⟨rfl, rfl, rfl, rfl, rfl⟩

theorem Alike.trans (first : u.Alike v) (second : v.Alike w) : u.Alike w :=
  ⟨second.store.trans first.store, second.credentials.trans first.credentials,
    second.expiry.trans first.expiry, second.reachable.trans first.reachable,
    second.reasons.trans first.reasons⟩

theorem silent_logAll (w : World) (events : List Log.Event) : w.Silent (w.logAll events) :=
  ⟨_, rfl, Journal.silent_logged events w.spans⟩

theorem silent_log (w : World) (event : Log.Event) : w.Silent (w.log event) :=
  silent_logAll w [event]

theorem alike_log (w : World) (event : Log.Event) : w.Alike (w.log event) :=
  ⟨rfl, rfl, rfl, rfl, rfl⟩

/-- Looking up the token at most reports that the store cannot be read. -/
theorem token_aside (w : World) : w.Silent w.token.2 ∧ w.Alike w.token.2 := by
  unfold token
  split
  · exact ⟨Silent.refl w, Alike.refl w⟩
  · split
    · exact ⟨Silent.refl w, Alike.refl w⟩
    · exact ⟨silent_log w _, alike_log w _⟩

/-! ### Giving up a session -/

theorem silent_apply (w : World) (change : Store.Change) : w.Silent (w.apply change).2 :=
  silent_logAll { w with store := change.store } change.events

theorem evictKey_aside (w : World) (key : String) :
    w.Silent (w.evictKey key) ∧ (w.evictKey key).expiry = w.expiry := by
  have removed : w.Silent (w.remove key).2 := silent_apply w _
  have same : (w.remove key).2.expiry = w.expiry := rfl
  unfold evictKey
  split
  next later outcome =>
    rw [outcome] at removed same
    exact ⟨removed, same⟩
  next e later outcome =>
    rw [outcome] at removed same
    exact ⟨removed.trans (silent_log later _), same⟩

theorem evict_aside (w : World) : w.Silent w.evict ∧ w.evict.expiry = w.expiry := by
  unfold evict
  split
  · exact ⟨⟨[], (List.append_nil _).symm, Journal.silent_nil⟩, rfl⟩
  · obtain ⟨first, same⟩ := evictKey_aside w Store.tokenKey
    obtain ⟨second, same'⟩ := evictKey_aside (w.evictKey Store.tokenKey) Store.userKey
    exact ⟨first.trans second, same'.trans same⟩

theorem reasons_evictKey (w : World) (key : String) : (w.evictKey key).reasons = w.reasons := by
  have removed : (w.remove key).2.reasons = w.reasons := rfl
  unfold evictKey
  split
  next outcome =>
    rw [outcome] at removed
    exact removed
  next outcome =>
    rw [outcome] at removed
    exact removed

theorem reasons_evict (w : World) : w.evict.reasons = w.reasons := by
  unfold evict
  split
  · rfl
  · rw [reasons_evictKey, reasons_evictKey]

/-- A world whose session is in a store that can be used. -/
structure Guarded (w : World) : Prop where
  stored : w.credentials = .stored
  serves : w.store.Serves

theorem Guarded.alike (guarded : w.Guarded) (alike : w.Alike v) : v.Guarded :=
  ⟨alike.credentials.trans guarded.stored, alike.store ▸ guarded.serves⟩

private theorem evictKey_of_guarded (guarded : w.Guarded) (key : String) :
    (w.evictKey key).Guarded ∧
      (w.evictKey key).store.entries = .ok (w.store.contents.erase key) := by
  have leaves := Store.remove_leaves guarded.serves key (w.reason .corrupt)
  have removed : w.evictKey key = (w.remove key).2 := by
    unfold evictKey remove apply
    rw [leaves.outcome]
  rw [removed]
  exact ⟨⟨guarded.stored, leaves.serves⟩, leaves.entries⟩

/-- Giving up a session takes the token and the profile out of the store, and nothing else. -/
theorem evict_of_guarded (guarded : w.Guarded) :
    w.evict.Guarded ∧
      w.evict.store.entries =
        .ok ((w.store.contents.erase Store.tokenKey).erase Store.userKey) := by
  have both : w.evict = (w.evictKey Store.tokenKey).evictKey Store.userKey := by
    unfold evict
    rw [guarded.stored]
  obtain ⟨still, withoutToken⟩ := evictKey_of_guarded guarded Store.tokenKey
  obtain ⟨after, withoutUser⟩ := evictKey_of_guarded still Store.userKey
  rw [both]
  exact ⟨after, by rw [withoutUser, Store.contents_of_entries withoutToken]⟩

end World

namespace Client

open Http (Ends finalStatus? Hop Outcome)
open TransportError (unauthorized)

variable {w : World}

/-! ### Sending -/

theorem authorize_aside (request : Http.Request) (w : World) :
    w.Silent (authorize request w).2 ∧ w.Alike (authorize request w).2 := by
  obtain ⟨silent, alike⟩ := w.token_aside
  unfold authorize
  split
  next later token =>
    rw [token] at silent alike
    exact ⟨silent.trans (World.silent_log later _), alike.trans (World.alike_log later _)⟩
  next text later token =>
    rw [token] at silent alike
    split
    · exact ⟨silent.trans (World.silent_log later _), alike.trans (World.alike_log later _)⟩
    · exact ⟨silent.trans ((World.silent_log later _).trans (World.silent_log _ _)),
        alike.trans ((World.alike_log later _).trans (World.alike_log _ _))⟩

/-- Only the authorization of a request depends on the token of the moment. -/
theorem authorize_eq (request : Http.Request) (w : World) :
    ∃ authorization, (authorize request w).1 = { request with authorization } := by
  unfold authorize
  split
  · exact ⟨request.authorization, rfl⟩
  · split
    · exact ⟨_, rfl⟩
    · exact ⟨request.authorization, rfl⟩

private theorem reaches_authorize (request : Http.Request) (w : World) (farEnd : Http.FarEnd) :
    (authorize request w).1.reaches farEnd = request.reaches farEnd := by
  obtain ⟨authorization, same⟩ := authorize_eq request w
  rw [same]
  rfl

/-- What is known of sending a request, `news` being what it adds to the journal. -/
structure Sends (request : Http.Request) (w : World) (result : Outcome × World) (news : Journal) :
    Prop where
  grown : result.2.journal = w.journal ++ news
  alike : w.Alike result.2
  redirects : Journal.redirects news = []
  ends : Ends (Journal.hops news) result.1
  first : (Journal.hops news).head?.map Hop.request =
    if request.reaches w.farEnd = true then some (authorize request w).1 else none

theorem attempt_sends (request : Http.Request) (w : World) :
    ∃ news, Sends request w (attempt request w) news := by
  obtain ⟨⟨remarks, grown, silent⟩, alike⟩ := authorize_aside request w
  have follows := Http.exchange_follows Http.redirectLimit (authorize request w).2.farEnd
    (authorize request w).1
  have reaches : (authorize request w).1.reaches (authorize request w).2.farEnd =
      request.reaches w.farEnd := by
    rw [reaches_authorize, Http.Request.reaches, Http.Request.reaches, alike.reachable]
  -- what is said about the token stands before the requests, and is silent
  unfold attempt
  simp only
  generalize Http.exchange Http.redirectLimit (authorize request w).2.farEnd
    (authorize request w).1 = exchange at follows ⊢
  have first := follows.first
  rw [reaches] at first
  have reachable : exchange.farEnd.isReachable = w.farEnd.isReachable :=
    follows.reachable.trans alike.reachable
  refine ⟨remarks ++ exchange.hops.map .sent, ?_,
    ⟨alike.store, alike.credentials, alike.expiry, reachable, alike.reasons⟩, ?_, ?_, ?_⟩
  · simp only [World.append, ← List.append_assoc, ← grown]
  · rw [Journal.redirects_append, silent.redirects, Journal.redirects_sent, List.append_nil]
  · rw [Journal.hops_append, silent.hops, Journal.hops_sent, List.nil_append]
    exact follows.ends
  · rw [Journal.hops_append, silent.hops, Journal.hops_sent, List.nil_append]
    exact first

private theorem Sends.hops_of_lost {request : Http.Request} {result : Outcome × World}
    {news : Journal} (sends : Sends request w result news)
    (lost : request.reaches w.farEnd = false) : Journal.hops news = [] := by
  have first := sends.first
  rw [lost] at first
  simpa using first

/-- Sending a request again after a first try goes by the same rule as sending it once. -/
private theorem Sends.again {request : Http.Request} {outcome : Outcome} {v : World}
    {result : Outcome × World} {earlier later : Journal}
    (sends : Sends request w (outcome, v) earlier) (resends : Sends request v result later) :
    Sends request w result (earlier ++ later) := by
  -- whether the far end can be reached does not change, so either both tries get there or neither
  have reaches : request.reaches v.farEnd = request.reaches w.farEnd := by
    rw [Http.Request.reaches, Http.Request.reaches, sends.alike.reachable]
  refine ⟨?_, sends.alike.trans resends.alike, ?_, ?_, ?_⟩
  · rw [resends.grown, sends.grown, List.append_assoc]
  · rw [Journal.redirects_append, sends.redirects, resends.redirects, List.append_nil]
  · rw [Journal.hops_append]
    by_cases arrives : request.reaches v.farEnd = true
    · have filled : Journal.hops later ≠ [] := by
        intro none
        have first := resends.first
        rw [none, if_pos arrives] at first
        cases first
      exact resends.ends.prepend filled _
    · have lost := Bool.eq_false_iff.mpr arrives
      rw [sends.hops_of_lost (reaches ▸ lost), List.nil_append]
      exact resends.ends
  · rw [Journal.hops_append, List.head?_append]
    by_cases arrives : request.reaches w.farEnd = true
    · have first := sends.first
      rw [if_pos arrives] at first ⊢
      obtain ⟨hop, head, same⟩ := Option.map_eq_some_iff.mp first
      rw [head, Option.some_or, Option.map_some, same]
    · have lost := Bool.eq_false_iff.mpr arrives
      rw [sends.hops_of_lost lost, resends.hops_of_lost (reaches ▸ lost), if_neg arrives]
      rfl

theorem persist_sends (request : Http.Request) (retries : Nat) (w : World) :
    ∃ news, Sends request w (persist request retries w) news := by
  -- a further try begins in the world that the one before has left
  induction retries generalizing w with
  | zero => exact attempt_sends request w
  | succ retries ih =>
    obtain ⟨earlier, sends⟩ := attempt_sends request w
    rw [persist]
    cases tried : attempt request w with
    | mk outcome v =>
      rw [tried] at sends
      simp only
      split
      · obtain ⟨later, resends⟩ := ih v
        exact ⟨earlier ++ later, sends.again resends⟩
      · exact ⟨earlier, sends⟩

/-! ### The session after a reply -/

theorem redirected?_unauthorized (request : Http.Request) :
    request.redirected? unauthorized = none := rfl

theorem guard_of_other {client : Client} {outcome : Outcome}
    (other : outcome.status? ≠ some unauthorized) (w : World) : client.guard outcome w = w := by
  unfold guard
  cases outcome with
  | failed failure => rfl
  | received url response complete =>
    exact if_neg fun same => other (congrArg some same)

theorem guard_of_refused (client : Client) {outcome : Outcome}
    (status : outcome.status? = some unauthorized) (w : World) :
    ∃ url, client.guard outcome w =
      ((w.log (.evicting url client.loginRoute)).evict).expire client.loginRoute := by
  unfold guard
  cases outcome with
  | failed failure => cases status
  | received url response complete => exact ⟨url.text, if_pos (Option.some.inj status)⟩

/-- How a guarded session is left by a call with such a last reply, `news` being what the call adds
to the journal: a refused session is given up, and the operator sent to log in if that is what
happens then; else nothing happens to it. -/
structure Treats (client : Client) (status? : Option Nat) (w v : World) (news : Journal) :
    Prop where
  guarded : v.Guarded
  expiry : v.expiry = w.expiry
  refusal : status? = some unauthorized →
    v.store.entries = .ok ((w.store.contents.erase Store.tokenKey).erase Store.userKey)
  expired : status? = some unauthorized → w.expiry = .redirected →
    Journal.redirects news = [client.loginRoute]
  otherwise : status? ≠ some unauthorized → v.store = w.store ∧ Journal.redirects news = []

private theorem expire_adds (w : World) (route : String) :
    ∃ news : Journal, (w.expire route).journal = w.journal ++ news ∧ news.hops = [] ∧
      (w.expiry = .redirected → news.redirects = [route]) := by
  unfold World.expire
  cases w.expiry with
  | ignored => exact ⟨[], (List.append_nil _).symm, rfl, fun redirected => by cases redirected⟩
  | redirected => exact ⟨_, List.append_assoc _ _ _, rfl, fun _ => rfl⟩
  | hinted => exact ⟨_, rfl, rfl, fun redirected => by cases redirected⟩

theorem alike_expire (w : World) (route : String) : w.Alike (w.expire route) := by
  unfold World.expire
  split <;> exact ⟨rfl, rfl, rfl, rfl, rfl⟩

/-- What becomes of a session after a reply. It sends nothing. -/
theorem guard_treats (client : Client) (outcome : Outcome) (w : World) :
    ∃ news : Journal, (client.guard outcome w).journal = w.journal ++ news ∧ news.hops = [] ∧
      (w.Guarded → client.Treats outcome.status? w (client.guard outcome w) news) := by
  by_cases status : outcome.status? = some unauthorized
  · obtain ⟨url, same⟩ := guard_of_refused client status w
    have logged := World.alike_log w (.evicting url client.loginRoute)
    have evicted := fun guarded : w.Guarded => World.evict_of_guarded (guarded.alike logged)
    obtain ⟨given, expiry⟩ := World.evict_aside (w.log (.evicting url client.loginRoute))
    obtain ⟨earlier, grown, silent⟩ := (World.silent_log w _).trans given
    rw [same]
    -- first the store is cleared, then the operator is sent away
    generalize (w.log (.evicting url client.loginRoute)).evict = v at grown evicted expiry ⊢
    obtain ⟨later, grown', nothing, route⟩ := expire_adds v client.loginRoute
    have alike := alike_expire v client.loginRoute
    refine ⟨earlier ++ later, by rw [grown', grown, List.append_assoc], ?_, ?_⟩
    · rw [Journal.hops_append, silent.hops, nothing, List.append_nil]
    · intro guarded
      obtain ⟨after, entries⟩ := evicted guarded
      refine ⟨after.alike alike, alike.expiry.trans expiry, ?_, ?_, fun other => absurd status other⟩
      · intro _
        rw [alike.store, entries, logged.store]
      · intro _ redirected
        rw [Journal.redirects_append, silent.redirects, route (expiry.trans redirected),
          List.nil_append]
  · rw [guard_of_other status]
    exact ⟨[], (List.append_nil _).symm, rfl, fun guarded => ⟨guarded, rfl,
      fun same => absurd same status, fun same => absurd same status, fun _ => ⟨rfl, rfl⟩⟩⟩

/-! ### Calls -/

theorem conclude_aside {α : Type} (client : Client) (decode : ByteArray → Option α)
    (method : String) (url : Url) (outcome : Outcome) (w : World) :
    w.Silent (client.conclude decode method url outcome w).2 ∧
      w.Alike (client.conclude decode method url outcome w).2 := by
  unfold conclude
  split
  · exact ⟨World.silent_log w _, World.alike_log w _⟩
  · exact ⟨World.silent_log w _, World.alike_log w _⟩
  · split
    · exact ⟨World.silent_log w _, World.alike_log w _⟩
    · exact ⟨World.silent_log w _, World.alike_log w _⟩

/-- Only a complete response that tells of success is an answer. -/
theorem received_of_conclude {α : Type} {client : Client} {decode : ByteArray → Option α}
    {method : String} {url : Url} {outcome : Outcome} {w : World} {answer : Answer α}
    (accepted : (client.conclude decode method url outcome w).1 = .ok answer) :
    ∃ final response, outcome = .received final response true ∧ response.isSuccess = true ∧
      readBody decode response = .ok answer.data := by
  unfold conclude at accepted
  split at accepted
  · cases accepted
  · cases accepted
  next final response =>
    split at accepted
    next success =>
      refine ⟨final, response, rfl, success, ?_⟩
      cases read : readBody decode response with
      | error e =>
        rw [read] at accepted
        cases accepted
      | ok data =>
        rw [read] at accepted
        cases accepted
        rfl
    · cases accepted

theorem conclude_of_received {α : Type} (client : Client) {decode : ByteArray → Option α}
    (method : String) (url : Url) {final : Url} {response : Http.Response} {data : Option α}
    (success : response.isSuccess = true) (read : readBody decode response = .ok data) (w : World) :
    (client.conclude decode method url (.received final response true) w).1 =
      .ok ⟨data, response.status, response.headers⟩ := by
  simp only [conclude, success, if_true, read]
  rfl

theorem readBody_eq_some {α : Type} {decode : ByteArray → Option α} {response : Http.Response}
    {data : α} (read : readBody decode response = .ok (some data)) :
    response.body.toList.all isAsciiBlank = false ∧ claimsJson response = true ∧
      decode response.body = some data := by
  unfold readBody at read
  split at read
  · cases read
  next filled =>
    split at read
    next found decoded =>
      cases read
      simp only [Bool.or_eq_true, not_or, Bool.not_eq_true, Bool.not_eq_false'] at filled
      exact ⟨filled.1, filled.2, decoded⟩
    · cases read

theorem readBody_of_json {α : Type} {decode : ByteArray → Option α} {response : Http.Response}
    {data : α} (filled : response.body.toList.all isAsciiBlank = false)
    (claims : claimsJson response = true) (decoded : decode response.body = some data) :
    readBody decode response = .ok (some data) := by
  simp only [readBody, filled, claims, decoded, Bool.not_true, Bool.or_self, Bool.false_eq_true,
    if_false]

/-- What is known of a call to an address, `news` being what it adds to the journal. -/
structure Proceeds {α : Type} (client : Client) (decode : ByteArray → Option α) (method : String)
    (url : Url) (body : Option String) (w : World)
    (result : Except TransportError (Answer α) × World) (news : Journal) : Prop where
  grown : result.2.journal = w.journal ++ news
  ends : ∃ outcome v, Ends (Journal.hops news) outcome ∧
    result.1 = (client.conclude decode method url outcome v).1
  first : (Journal.hops news).head?.map Hop.request =
    if (Http.Request.to method url body).reaches w.farEnd = true then
      some (authorize (Http.Request.to method url body) w).1 else none
  treats : w.Guarded → client.Treats (finalStatus? (Journal.hops news)) w result.2 news

theorem request_proceeds {α : Type} (client : Client) (decode : ByteArray → Option α)
    (method : String) {path : String} (body : Option String) (w : World) {url : Url}
    (address : client.urlFor path = .ok url) :
    ∃ news, client.Proceeds decode method url body w
      (client.request decode method path body w) news := by
  obtain ⟨sent, sends⟩ := persist_sends (Http.Request.to method url body) client.maxRetries w
  unfold request deliver
  rw [address]
  simp only
  cases delivered : persist (Http.Request.to method url body) client.maxRetries w with
  | mk outcome v =>
    rw [delivered] at sends
    obtain ⟨grown, alike, redirects, ends, first⟩ := sends
    obtain ⟨guarding, grown', nothing, treats⟩ := client.guard_treats outcome v
    obtain ⟨⟨said, grown'', silent⟩, alike'⟩ :=
      conclude_aside client decode method url outcome (client.guard outcome v)
    -- only sending makes requests, and only the guard redirects
    have hops : Journal.hops (sent ++ guarding ++ said) = Journal.hops sent := by
      rw [Journal.hops_append, Journal.hops_append, nothing, silent.hops, List.append_nil,
        List.append_nil]
    have news : Journal.redirects (sent ++ guarding ++ said) = Journal.redirects guarding := by
      rw [Journal.redirects_append, Journal.redirects_append, redirects, silent.redirects,
        List.append_nil, List.nil_append]
    refine ⟨sent ++ guarding ++ said, ?_, ⟨outcome, client.guard outcome v, ?_, rfl⟩, ?_, ?_⟩
    · simp only at grown grown' ⊢
      rw [grown'', grown', grown]
      simp only [List.append_assoc]
    · rw [hops]
      exact ends
    · rw [hops]
      exact first
    · intro guarded
      -- the guard goes by the outcome, whose status is that of the last reply
      obtain ⟨after, expiry, refusal, expired, otherwise⟩ := treats (guarded.alike alike)
      have status := ends.status_iff redirected?_unauthorized
      simp only at status alike expired
      rw [hops]
      refine ⟨after.alike alike', alike'.expiry.trans (expiry.trans alike.expiry), ?_, ?_, ?_⟩
      · intro final
        rw [alike'.store, refusal (status.mpr final), alike.store]
      · intro final redirected
        rw [news, expired (status.mpr final) (alike.expiry.trans redirected)]
      · intro final
        obtain ⟨store, route⟩ := otherwise fun same => final (status.mp same)
        exact ⟨by rw [alike'.store, store, alike.store], by rw [news, route]⟩

/-! ### What the last reply brings -/

/-- A reply that tells of success and has a JSON body which holds this. -/
structure Carries {α : Type} (decode : ByteArray → Option α) (hop : Hop) (response : Http.Response)
    (data : α) : Prop where
  reply : hop.reply = .answer response
  success : response.isSuccess = true
  bodied : response.isBodiless hop.request.method = false
  filled : response.body.toList.all isAsciiBlank = false
  json : claimsJson response = true
  holds : decode response.body = some data

/-- A call gives data exactly if the very last reply carries them. -/
theorem Proceeds.data_iff {α : Type} {client : Client} {decode : ByteArray → Option α}
    {method : String} {url : Url} {body : Option String}
    {result : Except TransportError (Answer α) × World} {news : Journal}
    (proceeds : client.Proceeds decode method url body w result news) (data : α) :
    (∃ answer, result.1 = .ok answer ∧ answer.data = some data) ↔
      ∃ hop response, (Journal.hops news).getLast? = some hop ∧
        Carries decode hop response data := by
  obtain ⟨outcome, v, ends, concluded⟩ := proceeds.ends
  constructor
  · intro ⟨answer, accepted, given⟩
    rw [concluded] at accepted
    obtain ⟨final, response, rfl, success, read⟩ := received_of_conclude accepted
    obtain ⟨hop, last, turn⟩ := ends.last nofun
    rw [given] at read
    obtain ⟨filled, json, holds⟩ := readBody_eq_some read
    rcases Http.reply_of_received turn with empty | ⟨reply, bodied⟩
    -- no data can be read off an empty body
    · rw [empty, ByteArray.toList_empty] at filled
      cases filled
    · exact ⟨hop, response, last, reply, success, bodied, filled, json, holds⟩
  · intro ⟨hop, response, last, carries⟩
    have turn := Http.turn_of_success carries.reply carries.success carries.bodied
    have read := readBody_of_json carries.filled carries.json carries.holds
    rw [ends.eq_of_last last turn, conclude_of_received client method url carries.success read v]
      at concluded
    exact ⟨_, concluded, rfl⟩

/-- The last reply to a call that was answered does not refuse the session. -/
theorem Proceeds.not_refused {α : Type} {client : Client} {decode : ByteArray → Option α}
    {method : String} {url : Url} {body : Option String} {answer : Answer α} {v : World}
    {news : Journal} (proceeds : client.Proceeds decode method url body w (.ok answer, v) news) :
    finalStatus? (Journal.hops news) ≠ some unauthorized := by
  obtain ⟨outcome, u, ends, concluded⟩ := proceeds.ends
  obtain ⟨final, response, rfl, success, _⟩ := received_of_conclude concluded.symm
  intro refusal
  have status := (ends.status_iff redirected?_unauthorized).mpr refusal
  have same : response.status = unauthorized := Option.some.inj status
  rw [Http.Response.isSuccess, same] at success
  cases success

end Client

end TeacherRegistry
