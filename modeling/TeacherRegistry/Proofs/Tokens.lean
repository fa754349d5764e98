import TeacherRegistry.Proofs.Origins

/-!
# The token of the moment

A call sends its first request with the token that it finds when it begins. It leaves the token
where it is, unless its last reply refuses the session: then there is no token any more. Storing and
removing texts changes the token only where it is kept in the store, and giving up the session takes
it away wherever it is kept.
-/

namespace TeacherRegistry

open Http (Hop Outcome finalStatus?)
open TransportError (unauthorized)

/-- Whether the token is kept in the store. -/
def Credentials.isStored : Credentials → Bool
  | .stored => true
  | .fixed _ => false

/-- A text as a token. One that is blank is none. -/
def Credentials.tokenOf (text : String) : Option String :=
  (some text).filter fun t => !Text.isBlank t

namespace World

variable {u v w : World} {token : Option String}

/-- Where the token is kept in the store, nothing keeps the store from being written, unless it
cannot even be read. -/
def Serves (w : World) : Prop :=
  w.credentials = .stored → w.store.entries = .error .unreadable ∨ w.store.Serves

theorem Serves.of_readable (serves : w.Serves) (stored : w.credentials = .stored)
    {entries : Dictionary String} (readable : w.store.entries = .ok entries) : w.store.Serves := by
  refine (serves stored).resolve_left ?_
  intro unreadable
  rw [readable] at unreadable
  cases unreadable

/-- A later world in which the token is kept where it was, and is now this one. -/
structure HandsOn (u v : World) (token : Option String) : Prop where
  serves : v.Serves
  isStored : v.credentials.isStored = u.credentials.isStored
  token : v.token.1 = token

/-- Where the store and the credentials are the same, the token is. -/
theorem token_of_same (store : v.store = w.store) (credentials : v.credentials = w.credentials) :
    v.token.1 = w.token.1 := by
  unfold World.token
  rw [credentials, store]
  split
  · rfl
  · split <;> rfl

theorem HandsOn.of_same (serves : w.Serves) (store : v.store = w.store)
    (credentials : v.credentials = w.credentials) : w.HandsOn v w.token.1 := by
  refine ⟨?_, congrArg Credentials.isStored credentials, token_of_same store credentials⟩
  intro stored
  rw [store]
  exact serves (credentials.symm.trans stored)

theorem HandsOn.of_alike (serves : w.Serves) (alike : w.Alike v) : w.HandsOn v w.token.1 :=
  .of_same serves alike.store alike.credentials

theorem HandsOn.trans {earlier later : Option String} (first : u.HandsOn v earlier)
    (second : v.HandsOn w later) : u.HandsOn w later :=
  ⟨second.serves, second.isStored.trans first.isStored, second.token⟩

/-- A token that is given for the run stays as long as nobody gives it up. -/
theorem HandsOn.of_fixed (fixed : w.credentials = .fixed token) (same : v.credentials = w.credentials) :
    w.HandsOn v w.token.1 := by
  have given : ∀ u : World, u.credentials = .fixed token → u.token.1 = token := by
    intro u fixed
    rw [World.token, fixed]
  refine ⟨?_, congrArg Credentials.isStored same, ?_⟩
  · intro stored
    rw [same, fixed] at stored
    cases stored
  · rw [given v (same.trans fixed), given w fixed]

/-! ### A token in the store -/

theorem token_of_error (stored : w.credentials = .stored) {e : Store.Error}
    (unreadable : w.store.entries = .error e) : w.token.1 = none := by
  have failed : w.store.get? Store.tokenKey = .error e := by
    rw [Store.get?, unreadable]
    rfl
  rw [World.token, stored]
  simp only [failed]

theorem token_of_guarded (guarded : w.Guarded) :
    w.token.1 = (w.store.contents.get? Store.tokenKey).filter fun t => !Text.isBlank t := by
  -- a store that cannot be understood holds no token, as an empty one does
  rcases guarded.serves.entries_cases with readable | ⟨corrupt, none⟩
  · rw [World.token, guarded.stored]
    simp only [Store.get?_of_entries readable]
  · rw [token_of_error guarded.stored corrupt, none]
    rfl

theorem Guarded.handsOn (guarded : w.Guarded) (stored : u.credentials = .stored)
    {entries : Dictionary String} (has : w.store.entries = .ok entries) :
    u.HandsOn w ((entries.get? Store.tokenKey).filter fun t => !Text.isBlank t) := by
  refine ⟨fun _ => Or.inr guarded.serves, ?_, ?_⟩
  · rw [guarded.stored, stored]
  · rw [token_of_guarded guarded, Store.contents_of_entries has]

/-- A session in a store from which nothing can be removed is not given up. -/
theorem evict_of_stuck (stored : w.credentials = .stored)
    (stuck : ∀ key reason, (w.store.remove key reason).store = w.store) :
    w.evict.store = w.store ∧ w.evict.credentials = w.credentials := by
  have kept : ∀ (v : World) (key : String), v.store = w.store →
      (v.evictKey key).store = w.store ∧ (v.evictKey key).credentials = v.credentials := by
    intro v key store
    have same : (v.remove key).2.store = w.store := by
      show (v.store.remove key (v.reason .corrupt)).store = w.store
      rw [store, stuck]
    have other : (v.remove key).2.credentials = v.credentials := rfl
    unfold evictKey
    split
    next later outcome =>
      rw [outcome] at same other
      exact ⟨same, other⟩
    next e later outcome =>
      rw [outcome] at same other
      exact ⟨same, other⟩
  have both : w.evict = (w.evictKey Store.tokenKey).evictKey Store.userKey := by
    unfold evict
    rw [stored]
  obtain ⟨first, other⟩ := kept w Store.tokenKey rfl
  obtain ⟨second, other'⟩ := kept _ Store.userKey first
  rw [both]
  exact ⟨second, other'.trans other⟩

/-- Giving up the session takes the token away. -/
theorem handsOn_evict (serves : w.Serves) : w.HandsOn w.evict none := by
  cases kept : w.credentials with
  | fixed given =>
    have evicted : w.evict = { w with credentials := .fixed none } := by
      unfold evict
      rw [kept]
    rw [evicted]
    refine ⟨?_, by rw [kept]; rfl, rfl⟩
    intro stored
    cases stored
  | stored =>
    rcases serves kept with unreadable | usable
    -- nothing is removed, but there is nothing to be read either
    · obtain ⟨store, credentials⟩ := evict_of_stuck kept fun key reason => by
        rw [Store.remove, unreadable]
      rw [← token_of_error kept unreadable]
      exact .of_same serves store credentials
    · obtain ⟨guarded, entries⟩ := evict_of_guarded ⟨kept, usable⟩
      have handed := guarded.handsOn kept entries
      rw [Dictionary.get?_erase, if_neg (by decide), Dictionary.get?_erase, if_pos rfl] at handed
      exact handed

/-- A text that is put under the key of the token is the token from then on, if it can be put. -/
theorem handsOn_put (serves : w.Serves) (key value : String) :
    ((w.put key value).1 = .ok () → w.HandsOn (w.put key value).2
      (if w.credentials.isStored ∧ key = Store.tokenKey then Credentials.tokenOf value
        else w.token.1)) ∧
    ∀ e, (w.put key value).1 = .error e → w.HandsOn (w.put key value).2 w.token.1 := by
  cases kept : w.credentials with
  | fixed given =>
    have handed : w.HandsOn (w.put key value).2 w.token.1 := .of_fixed kept rfl
    rw [if_neg (fun both => Bool.false_ne_true both.1)]
    exact ⟨fun _ => handed, fun _ _ => handed⟩
  | stored =>
    cases entries : w.store.entries with
    | ok d =>
      have usable := serves.of_readable kept entries
      have leaves := Store.set_leaves usable entries key value
      have outcome : (w.put key value).1 = .ok () := leaves.outcome
      have after : (w.put key value).2.Guarded := ⟨kept, leaves.serves⟩
      have handed := after.handsOn kept leaves.entries
      rw [Dictionary.get?_insert] at handed
      constructor
      · intro _
        by_cases named : key = Store.tokenKey
        · rw [if_pos named] at handed
          rw [if_pos ⟨rfl, named⟩]
          exact handed
        · rw [if_neg named] at handed
          rw [if_neg (fun both => named both.2), token_of_guarded ⟨kept, usable⟩,
            Store.contents_of_entries entries]
          exact handed
      · intro e failed
        rw [outcome] at failed
        cases failed
    | error e =>
      -- nothing is put into a store that cannot be read or understood
      have failed : w.put key value = (.error e, w.logAll []) := by
        rw [put, Store.set_of_error entries]
        rfl
      rw [failed]
      constructor
      · intro done
        cases done
      · intro _ _
        exact .of_same serves rfl rfl

theorem handsOn_remove (serves : w.Serves) (key : String) :
    w.HandsOn (w.remove key).2
      (if w.credentials.isStored ∧ key = Store.tokenKey then none else w.token.1) := by
  cases kept : w.credentials with
  | fixed given =>
    rw [if_neg (fun both => Bool.false_ne_true both.1)]
    exact .of_fixed kept rfl
  | stored =>
    rcases serves kept with unreadable | usable
    · have same : w.store.remove key (w.reason .corrupt) = ⟨.error .unreadable, w.store, []⟩ := by
        rw [Store.remove, unreadable]
      have none := token_of_error kept unreadable
      rw [none, ite_self, ← none, remove, same]
      exact .of_same serves rfl rfl
    · have leaves := Store.remove_leaves usable key (w.reason .corrupt)
      have after : (w.remove key).2.Guarded := ⟨kept, leaves.serves⟩
      have handed := after.handsOn kept leaves.entries
      rw [Dictionary.get?_erase] at handed
      by_cases named : key = Store.tokenKey
      · rw [if_pos named] at handed
        rw [if_pos ⟨rfl, named⟩]
        exact handed
      · rw [if_neg named] at handed
        rw [if_neg (fun both => named both.2), token_of_guarded ⟨kept, usable⟩]
        exact handed

end World

/-! ### Calls -/

variable {client : Client} {base : Url} {α : Type} {decode : ByteArray → Option α}
  {method path : String} {body : Option String} {w : World}

/-- A call leaves the world as it was, or it is refused and gives up the session. -/
theorem Call.leaves (client : Client) (decode : ByteArray → Option α) (method path : String)
    (body : Option String) (w : World) :
    let call := Call.of client decode method path body w
    (finalStatus? call.news.hops ≠ some unauthorized → w.Alike call.after) ∧
      (finalStatus? call.news.hops = some unauthorized →
        ∃ u, w.Alike u ∧ u.evict.Alike call.after) := by
  intro call
  cases address : client.urlFor path with
  | error e =>
    have nothing : call.after = w := by
      show (client.request decode method path body w).2 = w
      rw [Client.request, address]
    have silent : call.news.hops = [] := Call.hops_of_unaddressed address
    rw [nothing, silent]
    refine ⟨fun _ => .refl w, ?_⟩
    intro refused
    cases refused
  | ok url =>
    obtain ⟨sent, sends⟩ :=
      Client.persist_sends (Http.Request.to method url body) client.maxRetries w
    cases delivered : Client.persist (Http.Request.to method url body) client.maxRetries w with
    | mk outcome v =>
      rw [delivered] at sends
      have after : call.after =
          (client.conclude decode method url outcome (client.guard outcome v)).2 := by
        show (client.request decode method path body w).2 = _
        simp only [Client.request, Client.deliver, address, delivered]
      have alike := sends.alike
      obtain ⟨guarding, grown', nothing, _⟩ := client.guard_treats outcome v
      obtain ⟨⟨said, grown'', silent⟩, concluded⟩ :=
        client.conclude_aside decode method url outcome (client.guard outcome v)
      rw [← after] at grown'' concluded
      -- only sending makes requests, so the last reply is the one that the guard looks at
      have hops : call.news.hops = Journal.hops sent := by
        have all : call.after.journal = w.journal ++ (sent ++ (guarding ++ said)) := by
          rw [grown'', grown', sends.grown]
          simp only [List.append_assoc]
        have since : call.news = sent ++ (guarding ++ said) := World.since_eq all
        rw [since, Journal.hops_append, Journal.hops_append, nothing, silent.hops,
          List.append_nil, List.append_nil]
      have status := sends.ends.status_iff Client.redirected?_unauthorized
      rw [hops]
      constructor
      · intro other
        rw [Client.guard_of_other (fun same => other (status.mp same))] at concluded
        exact alike.trans concluded
      · intro refused
        obtain ⟨address, given⟩ := client.guard_of_refused (status.mpr refused) v
        rw [given] at concluded
        exact ⟨_, alike.trans (World.alike_log v _), (Client.alike_expire _ _).trans concluded⟩

/-- No call changes the reasons that are given. -/
theorem Client.reasons_request (client : Client) (decode : ByteArray → Option α)
    (method path : String) (body : Option String) (w : World) :
    (client.request decode method path body w).2.reasons = w.reasons := by
  obtain ⟨otherwise, refused⟩ := Call.leaves client decode method path body w
  by_cases refusal :
      finalStatus? (Call.of client decode method path body w).news.hops = some unauthorized
  · obtain ⟨u, before, after⟩ := refused refusal
    exact after.reasons.trans (u.reasons_evict.trans before.reasons)
  · exact (otherwise refusal).reasons

theorem Call.handsOn (client : Client) (decode : ByteArray → Option α) (method path : String)
    (body : Option String) (serves : w.Serves) :
    let call := Call.of client decode method path body w
    w.HandsOn call.after
      (if finalStatus? call.news.hops = some unauthorized then none else w.token.1) := by
  intro call
  obtain ⟨otherwise, refused⟩ := Call.leaves client decode method path body w
  split
  next refusal =>
    obtain ⟨u, before, after⟩ := refused refusal
    have reached := World.HandsOn.of_alike serves before
    have evicted := World.handsOn_evict reached.serves
    have left := World.HandsOn.of_alike evicted.serves after
    rw [evicted.token] at left
    exact reached.trans (evicted.trans left)
  next other => exact .of_alike serves (otherwise other)

/-! ### The header -/

/-- The header that a token makes. A text that may not stand in a header makes none. -/
def bearer? (token : Option String) : Option String :=
  (token.filter Http.isHeaderText).map fun text => "Bearer " ++ text

theorem Client.authorization_authorize (request : Http.Request) (w : World) :
    (authorize request w).1.authorization = (bearer? w.token.1).or request.authorization := by
  unfold authorize
  split
  next later none =>
    rw [none]
    rfl
  next text later some =>
    rw [some]
    split
    next proper =>
      rw [bearer?, Option.filter_some, if_pos proper]
      rfl
    next improper =>
      rw [bearer?, Option.filter_some, if_neg improper]
      rfl

theorem Http.authorization_to (url : Url) (username : url.username = [])
    (password : url.password = []) (method : String) (body : Option String) :
    (Http.Request.to method url body).authorization = none := by
  have empty : String.fromUTF8? ⟨(Url.percentDecode []).toArray⟩ = some "" := by decide
  simp only [Http.Request.to, Http.basicAuthorization?, username, password, empty, if_pos]
  rfl

theorem Call.head?_requests :
    (Call.of client decode method path body w).news.requests.head? =
      client.firstRequest? method path body w := by
  cases called : client.request decode method path body w with
  | mk result v =>
    rw [Call.news_of called]
    exact Client.head?_requests_of_request called

/-- The first request of a call carries the token that the call began with, and nothing else. -/
theorem Call.authorization_first (bound : Url.parse client.baseUrl = .ok base)
    (username : base.username = []) (password : base.password = []) {request : Http.Request}
    (first : (Call.of client decode method path body w).news.requests.head? = some request) :
    request.authorization = bearer? w.token.1 := by
  -- there is a request, so the client is bound to a network address
  have network : Url.IsNetwork base.scheme := by
    rw [Journal.requests_eq, List.head?_map] at first
    obtain ⟨hop, head, _⟩ := Option.map_eq_some_iff.mp first
    exact Call.network_of_hop bound (List.mem_of_head? head)
  have planned : client.firstRequest? method path body w = some request :=
    Call.head?_requests.symm.trans first
  unfold Client.firstRequest? at planned
  cases address : client.urlFor path with
  | error e =>
    rw [address] at planned
    cases planned
  | ok url =>
    rw [address] at planned
    simp only [Except.toOption, Option.bind_some] at planned
    split at planned
    · cases planned
      -- the path has put no credentials into the address
      obtain ⟨path, query, fragment, rfl⟩ :=
        Url.parse_behind bound network (Client.parse_of_urlFor address)
      rw [Client.authorization_authorize,
        Http.authorization_to { base with path, query, fragment } username password, Option.or_none]
    · cases planned

end TeacherRegistry
