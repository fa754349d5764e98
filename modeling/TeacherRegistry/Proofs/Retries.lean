import TeacherRegistry.Proofs.Tokens

/-!
# What retrying comes to

An attempt begins where the one before has ended: some replies are used up, and there is more to the
history, but nothing else has changed. A call does not look at the history. So a call that is
retried ends as a single attempt would end at a far end that has only the later replies to give.
-/

namespace TeacherRegistry

open Http (Hop Outcome)

namespace Http

/-- The far end after so many more requests have been replied to. -/
def FarEnd.drop (count : Nat) : FarEnd → FarEnd
  | .unreachable => .unreachable
  | .script replies => .script (replies.drop count)

@[simp] theorem FarEnd.drop_zero (farEnd : FarEnd) : farEnd.drop 0 = farEnd := by
  cases farEnd <;> rfl

theorem FarEnd.drop_drop (farEnd : FarEnd) (count more : Nat) :
    (farEnd.drop count).drop more = farEnd.drop (count + more) := by
  cases farEnd with
  | unreachable => rfl
  | script replies => simp only [FarEnd.drop, List.drop_drop]

theorem send_drops (farEnd : FarEnd) (request : Request) :
    (send farEnd request).2.1 = farEnd.drop (send farEnd request).2.2.length := by
  unfold send
  split
  · exact farEnd.drop_zero.symm
  · cases farEnd with
    | unreachable => rfl
    | script replies => cases replies <;> rfl

/-- An exchange uses up one reply for every request that it makes. -/
theorem exchange_drops (room : Nat) (farEnd : FarEnd) (request : Request) :
    (exchange room farEnd request).farEnd =
      farEnd.drop (exchange room farEnd request).hops.length := by
  fun_induction exchange room farEnd request with
  | case1 room farEnd request outcome later hops sent
  | case2 farEnd request next later hops sent =>
    have drops := send_drops farEnd request
    rw [sent] at drops
    exact drops
  | case3 farEnd request next later hops sent room rest ih =>
    have drops : later = farEnd.drop hops.length := by
      have drops := send_drops farEnd request
      rwa [sent] at drops
    show rest.farEnd = farEnd.drop (hops ++ rest.hops).length
    rw [ih, drops, FarEnd.drop_drop, List.length_append, ← drops]

end Http

/-! ### The history -/

namespace World

/-- The same world with a longer history: these things have happened before all others. -/
def behind (earlier : Journal) (w : World) : World :=
  { w with journal := earlier ++ w.journal }

variable (earlier : Journal) (w : World)

@[simp] theorem credentials_behind : (w.behind earlier).credentials = w.credentials := rfl
@[simp] theorem store_behind : (w.behind earlier).store = w.store := rfl
@[simp] theorem expiry_behind : (w.behind earlier).expiry = w.expiry := rfl
@[simp] theorem reason_behind (e : Store.Error) : (w.behind earlier).reason e = w.reason e := rfl

theorem append_behind (entries : Journal) :
    (w.behind earlier).append entries = (w.append entries).behind earlier := by
  simp only [behind, append, List.append_assoc]

@[simp] theorem log_behind (event : Log.Event) :
    (w.behind earlier).log event = (w.log event).behind earlier :=
  append_behind earlier w _

theorem since_behind (v : World) : (v.behind earlier).since (w.behind earlier) = v.since w := by
  simp only [since, behind, List.length_append, ← List.drop_drop, List.drop_left]

@[simp] theorem token_behind :
    (w.behind earlier).token = (w.token.1, w.token.2.behind earlier) := by
  unfold token
  simp only [credentials_behind, store_behind]
  split
  · rfl
  · split
    · rfl
    · simp only [log_behind, reason_behind]

theorem remove_behind (key : String) :
    (w.behind earlier).remove key = ((w.remove key).1, (w.remove key).2.behind earlier) :=
  congrArg (Prod.mk _) (append_behind earlier { w with store := (w.remove key).2.store } _)

theorem evictKey_behind (key : String) :
    (w.behind earlier).evictKey key = (w.evictKey key).behind earlier := by
  unfold evictKey
  rw [remove_behind]
  rcases w.remove key with ⟨outcome, v⟩
  cases outcome with
  | ok => rfl
  | error e => exact log_behind earlier v _

theorem evict_behind : (w.behind earlier).evict = w.evict.behind earlier := by
  unfold evict
  simp only [credentials_behind, evictKey_behind]
  split <;> rfl

theorem expire_behind (route : String) :
    (w.behind earlier).expire route = (w.expire route).behind earlier := by
  unfold expire
  simp only [expiry_behind, log_behind, record, append_behind]
  split <;> rfl

end World

namespace Client

variable (client : Client) (earlier : Journal) (request : Http.Request) (w : World)

theorem authorize_behind : authorize request (w.behind earlier) =
    ((authorize request w).1, (authorize request w).2.behind earlier) := by
  unfold authorize
  rw [World.token_behind]
  rcases w.token with ⟨token, v⟩
  cases token with
  | none => simp only [World.log_behind]
  | some text =>
    simp only [World.log_behind]
    split <;> rfl

theorem attempt_behind : attempt request (w.behind earlier) =
    ((attempt request w).1, (attempt request w).2.behind earlier) := by
  unfold attempt
  rw [authorize_behind]
  rcases authorize request w with ⟨authorized, v⟩
  exact congrArg (Prod.mk _) (World.append_behind earlier
    { v with farEnd := (Http.exchange Http.redirectLimit v.farEnd authorized).farEnd } _)

theorem persist_behind (retries : Nat) : persist request retries (w.behind earlier) =
    ((persist request retries w).1, (persist request retries w).2.behind earlier) := by
  induction retries generalizing w with
  | zero => exact attempt_behind earlier request w
  | succ retries ih =>
    rw [persist, persist, attempt_behind]
    cases attempt request w with
    | mk outcome v =>
      -- whether there is another attempt is told from the outcome alone
      simp only
      split
      · exact ih v
      · rfl

theorem guard_behind (outcome : Outcome) :
    client.guard outcome (w.behind earlier) = (client.guard outcome w).behind earlier := by
  unfold guard
  split
  · simp only [World.log_behind, World.evict_behind, World.expire_behind]
    split <;> rfl
  · rfl

theorem conclude_behind {α : Type} (decode : ByteArray → Option α) (method : String) (url : Url)
    (outcome : Outcome) : client.conclude decode method url outcome (w.behind earlier) =
      ((client.conclude decode method url outcome w).1,
        (client.conclude decode method url outcome w).2.behind earlier) := by
  unfold conclude
  simp only [World.log_behind]
  split
  · rfl
  · rfl
  · split <;> rfl

/-- A call does not look at the history. -/
theorem request_behind {α : Type} (decode : ByteArray → Option α) (method path : String)
    (body : Option String) :
    client.request decode method path body (w.behind earlier) =
      ((client.request decode method path body w).1,
        (client.request decode method path body w).2.behind earlier) := by
  unfold Client.request deliver
  split
  · rfl
  · simp only [persist_behind, guard_behind, conclude_behind]

end Client

/-! ### Attempts in a row -/

namespace World

variable {w : World}

/-- The world after all this has happened: the requests in it have used up their replies. -/
def living (w : World) (news : Journal) : World :=
  { w with farEnd := w.farEnd.drop news.hops.length }.append news

theorem living_nil (w : World) : w.living [] = w := by
  simp only [living, append, List.append_nil, show Journal.hops [] = [] from rfl, List.length_nil,
    Http.FarEnd.drop_zero]

theorem living_append (w : World) (earlier later : Journal) :
    (w.living earlier).living later = w.living (earlier ++ later) := by
  simp only [living, append, Http.FarEnd.drop_drop, Journal.hops_append, List.length_append,
    List.append_assoc]

theorem since_living (w : World) (news : Journal) : (w.living news).since w = news :=
  since_eq rfl

/-- Something was said, and nothing else has happened. -/
def Remarks (w v : World) : Prop :=
  ∃ remarks : Journal, remarks.hops = [] ∧ v = w.append remarks

theorem Remarks.refl (w : World) : w.Remarks w :=
  ⟨[], rfl, by simp only [append, List.append_nil]⟩

theorem Remarks.log {v : World} (remarks : w.Remarks v) (event : Log.Event) :
    w.Remarks (v.log event) := by
  obtain ⟨said, silent, rfl⟩ := remarks
  refine ⟨said ++ [.logged event w.spans], ?_, ?_⟩
  · rw [Journal.hops_append, silent]
    rfl
  · simp only [World.log, logAll, append, List.append_assoc, List.map_cons, List.map_nil]

theorem remarks_token (w : World) : w.Remarks w.token.2 := by
  unfold token
  split
  · exact .refl w
  · split
    · exact .refl w
    · exact (Remarks.refl w).log _

end World

namespace Client

variable {client : Client} {request : Http.Request} {w : World}

theorem remarks_authorize (request : Http.Request) (w : World) :
    w.Remarks (authorize request w).2 := by
  have looked := w.remarks_token
  unfold authorize
  split
  next v none =>
    rw [none] at looked
    exact looked.log _
  next text v some =>
    rw [some] at looked
    split
    · exact looked.log _
    · exact (looked.log _).log _

/-- An attempt uses up the replies that it gets, and goes down in history. -/
theorem attempt_lives (request : Http.Request) (w : World) :
    (attempt request w).2 = w.living ((attempt request w).2.since w) := by
  have lives : ∃ news, (attempt request w).2 = w.living news := by
    have remarked := remarks_authorize request w
    unfold attempt
    cases found : authorize request w with
    | mk authorized v =>
      rw [found] at remarked
      obtain ⟨remarks, silent, rfl⟩ := remarked
      have drops := Http.exchange_drops Http.redirectLimit w.farEnd authorized
      refine ⟨remarks ++ (Http.exchange Http.redirectLimit w.farEnd authorized).hops.map .sent, ?_⟩
      simp only [World.living, World.append, Journal.hops_append, silent, Journal.hops_sent,
        List.nil_append, List.append_assoc, drops]
  obtain ⟨news, lived⟩ := lives
  rw [lived, World.since_living]

/-- The world after this many attempts to send a request. -/
def attempted (request : Http.Request) : Nat → World → World
  | 0, w => w
  | n + 1, w => attempted request n (attempt request w).2

/-- What each of this many attempts to send a request adds to the history. -/
def tries (request : Http.Request) : Nat → World → List Journal
  | 0, _ => []
  | n + 1, w => (attempt request w).2.since w :: tries request n (attempt request w).2

/-- How many of the first attempts fail in a way that may pass, before one does not or the limit is
reached. -/
def transientRun (request : Http.Request) (limit : Nat) (w : World) : Nat :=
  (((List.range limit).map fun n => (attempt request (attempted request n w)).1).takeWhile
    Outcome.isTransient).length

theorem attempted_succ (request : Http.Request) (n : Nat) (w : World) :
    attempted request (n + 1) w = (attempt request (attempted request n w)).2 := by
  induction n generalizing w with
  | zero => rfl
  | succ n ih => exact ih (attempt request w).2

theorem transientRun_succ (request : Http.Request) (limit : Nat) (w : World) :
    transientRun request (limit + 1) w =
      if (attempt request w).1.isTransient then transientRun request limit (attempt request w).2 + 1
      else 0 := by
  unfold transientRun
  rw [List.range_succ_eq_map, List.map_cons, List.map_map, List.takeWhile_cons,
    show attempted request 0 w = w from rfl]
  split
  · exact List.length_cons
  · rfl

/-- A request is sent again as long as it fails in a way that may pass, and the last attempt is what
comes of it. -/
theorem persist_eq (request : Http.Request) (retries : Nat) (w : World) :
    persist request retries w =
      attempt request (attempted request (transientRun request retries w) w) := by
  induction retries generalizing w with
  | zero => rfl
  | succ retries ih =>
    rw [persist, transientRun_succ]
    split
    next outcome v tried =>
      rw [tried]
      split
      · rw [ih v, attempted, tried]
      · exact tried.symm

theorem persist_of_final (final : (attempt request w).1.isTransient = false) (retries : Nat) :
    persist request retries w = attempt request w := by
  have none : transientRun request retries w = 0 := by
    cases retries with
    | zero => rfl
    | succ retries => rw [transientRun_succ, final, if_neg Bool.false_ne_true]
  rw [persist_eq, none]
  rfl

theorem length_tries (request : Http.Request) (n : Nat) (w : World) :
    (tries request n w).length = n := by
  induction n generalizing w with
  | zero => rfl
  | succ n ih => rw [tries, List.length_cons, ih]

/-- Attempts in a row change nothing but the history, and use up replies. -/
theorem attempted_lives (request : Http.Request) (n : Nat) (w : World) :
    attempted request n w = w.living (tries request n w).flatten := by
  induction n generalizing w with
  | zero => exact w.living_nil.symm
  | succ n ih =>
    rw [attempted, tries, List.flatten_cons, ← World.living_append, ← attempt_lives]
    exact ih _

/-- A request that is sent carries the token of the moment, or what it carried before. -/
theorem fst_authorize (request : Http.Request) (w : World) :
    (authorize request w).1 =
      { request with authorization := (bearer? w.token.1).or request.authorization } := by
  have header := authorization_authorize request w
  obtain ⟨authorization, same⟩ := authorize_eq request w
  rw [same] at header ⊢
  exact congrArg (fun carried => { request with authorization := carried }) header

/-- An attempt that begins as one would begin in this world. -/
structure Begins (request : Http.Request) (w : World) (news : Journal) : Prop where
  first : news.hops.head?.map Hop.request =
    if request.reaches w.farEnd then some (authorize request w).1 else none
  redirects : news.redirects = []

theorem begins_of_mem_tries {news : Journal} {n : Nat} (among : news ∈ tries request n w) :
    Begins request w news := by
  induction n generalizing w with
  | zero => cases among
  | succ n ih =>
    obtain ⟨first, sends⟩ := attempt_sends request w
    rcases List.mem_cons.mp among with rfl | later
    · rw [World.since_eq sends.grown]
      exact ⟨sends.first, sends.redirects⟩
    · -- the token is still the same, and so is whether the far end can be reached
      have begins := (ih later).first
      rw [fst_authorize, World.token_of_same sends.alike.store sends.alike.credentials,
        ← fst_authorize, Http.Request.reaches, sends.alike.reachable] at begins
      exact ⟨begins, (ih later).redirects⟩

theorem redirects_flatten_tries (request : Http.Request) (n : Nat) (w : World) :
    Journal.redirects (tries request n w).flatten = [] := by
  unfold Journal.redirects
  rw [List.filterMap_eq_nil_iff]
  intro entry among
  obtain ⟨news, tried, entered⟩ := List.mem_flatten.mp among
  exact List.filterMap_eq_nil_iff.mp (begins_of_mem_tries tried).redirects entry entered

theorem request_of_address {α : Type} (decode : ByteArray → Option α) (method : String)
    {path : String} (body : Option String) (w : World) {url : Url}
    (address : client.urlFor path = .ok url) :
    client.request decode method path body w =
      let tried := persist (Http.Request.to method url body) client.maxRetries w
      client.conclude decode method url tried.1 (client.guard tried.1 tried.2) := by
  unfold Client.request deliver
  rw [address]

/-- The client without retries. -/
def once (client : Client) : Client := { client with maxRetries := 0 }

/-- A call comes to the attempts that fail, and then to the call without retries. -/
theorem request_eq_once {α : Type} (decode : ByteArray → Option α) (method : String)
    {path : String} (body : Option String) (w : World) {url : Url}
    (address : client.urlFor path = .ok url) :
    client.request decode method path body w =
      client.once.request decode method path body
        (attempted (Http.Request.to method url body)
          (transientRun (Http.Request.to method url body) client.maxRetries w) w) := by
  have same : client.once.urlFor path = .ok url := address
  rw [request_of_address decode method body w address,
    request_of_address decode method body _ same, persist_eq]
  rfl

/-- After its only attempt a call makes no request. -/
theorem once_grows {α : Type} (decode : ByteArray → Option α) (method : String) {path : String}
    (body : Option String) (w : World) {url : Url} (address : client.urlFor path = .ok url) :
    ∃ aftermath : Journal, aftermath.hops = [] ∧
      (client.once.request decode method path body w).2.journal =
        (attempt (Http.Request.to method url body) w).2.journal ++ aftermath := by
  have same : client.once.urlFor path = .ok url := address
  let tried := attempt (Http.Request.to method url body) w
  obtain ⟨guarding, grown, nothing, _⟩ := client.once.guard_treats tried.1 tried.2
  obtain ⟨⟨said, grown', silent⟩, _⟩ :=
    client.once.conclude_aside decode method url tried.1 (client.once.guard tried.1 tried.2)
  refine ⟨guarding ++ said, ?_, ?_⟩
  · rw [Journal.hops_append, nothing, silent.hops, List.append_nil]
  · rw [request_of_address decode method body w same, ← List.append_assoc, ← grown]
    exact grown'

/-- The world with a far end that has only the later replies to give, without those to the first
`count` attempts to send a request. -/
def spared (request : Http.Request) (count : Nat) (w : World) : World :=
  { w with farEnd := w.farEnd.drop (Journal.hops (tries request count w).flatten).length }

/-- A call that is retried, next to one that is not: `count` attempts have failed before the one
that both make. -/
structure Retried {α : Type} (client : Client) (decode : ByteArray → Option α)
    (method path : String) (body : Option String) (w : World) (request : Http.Request)
    (count : Nat) : Prop where
  /-- The call makes its attempts, and no requests but in them. -/
  attempts : (tries request (count + 1) w).length = count + 1 ∧
    ∃ aftermath : Journal, aftermath.hops = [] ∧
      (client.request decode method path body w).2.since w =
        (tries request (count + 1) w).flatten ++ aftermath
  /-- All attempts begin in the same way. -/
  begins : ∀ news ∈ tries request (count + 1) w, Begins request w news
  result : (client.request decode method path body w).1 =
    (client.once.request decode method path body (spared request count w)).1
  /-- The worlds afterwards, their stores among them, differ in nothing but the history. -/
  world : ∃ journal, (client.request decode method path body w).2 =
    { (client.once.request decode method path body (spared request count w)).2 with journal }
  redirects : ((client.request decode method path body w).2.since w).redirects =
    ((client.once.request decode method path body (spared request count w)).2.since
      (spared request count w)).redirects

theorem retried_of_address {α : Type} (decode : ByteArray → Option α) (method : String)
    {path : String} (body : Option String) (w : World) {url : Url}
    (address : client.urlFor path = .ok url) :
    client.Retried decode method path body w (Http.Request.to method url body)
      (transientRun (Http.Request.to method url body) client.maxRetries w) := by
  let request := Http.Request.to method url body
  let count := transientRun request client.maxRetries w
  have called : client.request decode method path body w =
    client.once.request decode method path body (attempted request count w) :=
      request_eq_once decode method body w address
  obtain ⟨aftermath, nothing, grown⟩ :=
    once_grows decode method body (attempted request count w) address
  rw [← called, ← attempted_succ, attempted_lives] at grown
  -- both calls make their last attempt in this world, with another history each
  let failed : Journal := (tries request count w).flatten
  let bare : World := { w with farEnd := w.farEnd.drop failed.hops.length, journal := [] }
  have before : attempted request count w = bare.behind (w.journal ++ failed) := by
    rw [attempted_lives]
    simp only [World.living, World.append, World.behind, List.append_nil, bare, failed]
  have rest : spared request count w = bare.behind w.journal := by
    simp only [spared, World.behind, List.append_nil, bare, failed]
  have one := client.once.request_behind (w.journal ++ failed) bare decode method path body
  have other := client.once.request_behind w.journal bare decode method path body
  rw [← before, ← called] at one
  rw [← rest] at other
  refine ⟨⟨length_tries request (count + 1) w, aftermath, nothing, ?_⟩,
    fun news among => begins_of_mem_tries among, ?_, ?_, ?_⟩
  · apply World.since_eq
    rw [grown, ← List.append_assoc]
    rfl
  · rw [one, other]
  · rw [one, other]
    generalize (client.once.request decode method path body bare).2 = ended
    exact ⟨_, rfl⟩
  · let ended := (client.once.request decode method path body bare).2
    have history : (ended.behind (w.journal ++ failed)).since w = failed ++ ended.journal :=
      World.since_eq (List.append_assoc _ _ _)
    have same : ended.since bare = ended.journal := rfl
    rw [one, other, rest, World.since_behind, history, same, Journal.redirects_append,
      redirects_flatten_tries, List.nil_append]

/-- Retries cannot be told from what comes of a call, nor from the session afterwards: the attempts
that fail in a way that may pass have used up their replies, and that is all. A call that has no
address makes no attempt. -/
theorem retries_transparent {α : Type} (client : Client) (decode : ByteArray → Option α)
    (method path : String) (body : Option String) (w : World) :
    match client.urlFor path with
    | .error e =>
      client.request decode method path body w = (.error e, w) ∧
        client.once.request decode method path body w = (.error e, w)
    | .ok url =>
      let request := Http.Request.to method url body
      client.Retried decode method path body w request
        (transientRun request client.maxRetries w) := by
  cases address : client.urlFor path with
  | error e =>
    have same : client.once.urlFor path = .error e := address
    exact ⟨by rw [Client.request, address], by rw [Client.request, same]⟩
  | ok url => exact retried_of_address decode method body w address

end Client

end TeacherRegistry
