import TeacherRegistry.Proofs.FirstRequests
import TeacherRegistry.Proofs.Retries

/-!
# Calls that are made once

A call makes requests, each of which uses up one reply, and it reports events; it gives the
operator no notice and asks no question. Where nothing is retried and no reply redirects, all its
requests are one, or none if the first does not get to the far end.
-/

namespace TeacherRegistry

open Http (Hop)

namespace Http

/-- Whether a response sends its sender on to another place. -/
def Response.isRedirection (response : Response) : Bool :=
  [301, 302, 303, 307, 308].contains response.status && (response.header? "location").isSome

def Reply.isRedirection : Reply → Bool
  | .answer response | .cut response => response.isRedirection
  | .drop | .hang => false

/-- A far end that redirects no request. -/
def FarEnd.IsDirect : FarEnd → Prop
  | .unreachable => True
  | .script replies => ∀ reply ∈ replies, reply.isRedirection = false

namespace FarEnd

variable {farEnd : FarEnd}

theorem IsDirect.drop (direct : farEnd.IsDirect) (count : Nat) : (farEnd.drop count).IsDirect := by
  cases farEnd with
  | unreachable => trivial
  | script replies => exact fun reply among => direct reply (List.mem_of_mem_drop among)

theorem isReachable_drop (count : Nat) : (farEnd.drop count).isReachable = farEnd.isReachable := by
  cases farEnd <;> rfl

theorem IsDirect.next {later : FarEnd} {reply : Reply} (direct : farEnd.IsDirect)
    (next : farEnd.next = (some reply, later)) : reply.isRedirection = false := by
  cases farEnd with
  | unreachable => cases next
  | script replies =>
    cases replies with
    | nil =>
      cases next
      decide
    | cons =>
      cases next
      exact direct _ List.mem_cons_self

end FarEnd

theorem next?_of_direct {response : Response} (direct : response.isRedirection = false)
    (request : Request) : request.next? response = none := by
  unfold Request.next? Request.redirected?
  cases place : response.header? "location" with
  | none => simp
  | some location =>
    -- a place is named, so the status is none of those that redirect
    simp only [Response.isRedirection, place, Option.isSome_some, Bool.and_true,
      List.contains_eq_mem, List.mem_cons, List.not_mem_nil, or_false, decide_eq_false_iff_not,
      not_or] at direct
    obtain ⟨moved, found, other, temporary, permanent⟩ := direct
    simp [moved, found, other, temporary, permanent]

theorem turn_of_direct {response : Response} (direct : response.isRedirection = false)
    (request : Request) (arrived : Bool) :
    ∃ outcome, Turn.of request response arrived = .ended outcome := by
  rw [Turn.of, next?_of_direct direct]
  exact ⟨_, rfl⟩

theorem send_of_direct {farEnd : FarEnd} (direct : farEnd.IsDirect) (request : Request) :
    ∃ outcome, (send farEnd request).1 = .ended outcome := by
  unfold send
  split
  · exact ⟨_, rfl⟩
  · split
    · exact ⟨_, rfl⟩
    next reply later next =>
      have stays := direct.next next
      cases reply with
      | answer response => exact turn_of_direct stays request true
      | cut response => exact turn_of_direct stays request false
      | drop => exact ⟨_, rfl⟩
      | hang => exact ⟨_, rfl⟩

theorem exchange_of_direct {farEnd : FarEnd} (direct : farEnd.IsDirect) (room : Nat)
    (request : Request) : (exchange room farEnd request).hops.length ≤ 1 := by
  obtain ⟨outcome, ended⟩ := send_of_direct direct request
  cases sent : send farEnd request with
  | mk turn rest =>
    obtain ⟨later, hops⟩ := rest
    rw [sent] at ended
    simp only at ended
    subst ended
    rw [exchange_of_ended sent]
    rcases eq_of_send sent with ⟨_, rfl⟩ | ⟨reply, _, rfl⟩
    · exact Nat.zero_le 1
    · exact Nat.le_refl 1

end Http

/-! ### What a call adds to the journal -/

/-- What calls add to the journal: requests, events, and where to log in again. -/
def Entry.isOfCall : Entry → Bool
  | .sent _ | .logged _ _ | .expired _ | .hinted _ => true
  | .notice _ _ | .asked _ _ | .printed _ => false

/-- The questions to the operator, with the answers. -/
def Journal.questions (journal : Journal) : List (String × Bool) :=
  journal.filterMap fun
    | .asked prompt answer => some (prompt, answer)
    | _ => none

namespace Journal

@[simp] theorem notices_append (earlier later : Journal) :
    notices (earlier ++ later) = notices earlier ++ notices later := by
  simp only [notices, List.filterMap_append]

@[simp] theorem questions_append (earlier later : Journal) :
    questions (earlier ++ later) = questions earlier ++ questions later := by
  simp only [questions, List.filterMap_append]

theorem notices_of_call {news : Journal} (ofCall : ∀ entry ∈ news, entry.isOfCall = true) :
    news.notices = [] := by
  refine List.filterMap_eq_nil_iff.mpr fun entry among => ?_
  have here := ofCall entry among
  cases entry <;> first | rfl | cases here

theorem questions_of_call {news : Journal} (ofCall : ∀ entry ∈ news, entry.isOfCall = true) :
    news.questions = [] := by
  refine List.filterMap_eq_nil_iff.mpr fun entry among => ?_
  have here := ofCall entry among
  cases entry <;> first | rfl | cases here

end Journal

namespace World

variable {u v w : World}

/-- From one world to another, calls and nothing else have added to the journal, and every request
has used up one reply. -/
def Spends (w v : World) : Prop :=
  ∃ news : Journal, v.journal = w.journal ++ news ∧ (∀ entry ∈ news, entry.isOfCall = true) ∧
    v.farEnd = w.farEnd.drop news.hops.length

theorem Spends.of_silent {news : Journal} (grown : v.journal = w.journal ++ news)
    (ofCall : ∀ entry ∈ news, entry.isOfCall = true) (nothing : news.hops = [])
    (same : v.farEnd = w.farEnd) : w.Spends v :=
  ⟨news, grown, ofCall, by rw [nothing, List.length_nil, Http.FarEnd.drop_zero, same]⟩

theorem Spends.refl (w : World) : w.Spends w :=
  .of_silent (List.append_nil _).symm (List.forall_mem_nil _) rfl rfl

theorem Spends.trans (first : u.Spends v) (second : v.Spends w) : u.Spends w := by
  obtain ⟨earlier, grown, ofCall, drops⟩ := first
  obtain ⟨later, grown', ofCall', drops'⟩ := second
  -- the replies that are used up add, as the requests do
  refine ⟨earlier ++ later, by rw [grown', grown, List.append_assoc], ?_, ?_⟩
  · exact fun entry among => (List.mem_append.mp among).elim (ofCall entry) (ofCall' entry)
  · rw [drops', drops, Http.FarEnd.drop_drop, Journal.hops_append, List.length_append]

theorem Spends.since (spends : w.Spends v) : ∀ entry ∈ v.since w, entry.isOfCall = true := by
  obtain ⟨news, grown, ofCall, _⟩ := spends
  rw [since_eq grown]
  exact ofCall

theorem Spends.notices_since (spends : w.Spends v) : (v.since w).notices = [] :=
  Journal.notices_of_call spends.since

theorem Spends.questions_since (spends : w.Spends v) : (v.since w).questions = [] :=
  Journal.questions_of_call spends.since

theorem spends_logAll (w : World) (events : List Log.Event) : w.Spends (w.logAll events) := by
  refine .of_silent rfl ?_ (Journal.silent_logged events w.spans).hops rfl
  intro entry among
  obtain ⟨event, _, rfl⟩ := List.mem_map.mp among
  rfl

theorem Spends.log (spends : w.Spends v) (event : Log.Event) : w.Spends (v.log event) :=
  spends.trans (spends_logAll v [event])

theorem spends_token (w : World) : w.Spends w.token.2 := by
  unfold token
  split
  · exact .refl w
  · split
    · exact .refl w
    · exact (Spends.refl w).log _

theorem spends_evictKey (w : World) (key : String) : w.Spends (w.evictKey key) := by
  have removed : w.Spends (w.remove key).2 :=
    spends_logAll { w with store := (w.remove key).2.store } _
  unfold evictKey
  split
  next v outcome =>
    rw [outcome] at removed
    exact removed
  next e v outcome =>
    rw [outcome] at removed
    exact removed.log _

theorem spends_evict (w : World) : w.Spends w.evict := by
  unfold evict
  split
  · exact .of_silent (List.append_nil _).symm (List.forall_mem_nil _) rfl rfl
  · exact (spends_evictKey w _).trans (spends_evictKey _ _)

theorem spends_expire (w : World) (route : String) : w.Spends (w.expire route) := by
  have sent : ∀ (v : World) (entry : Entry), entry.isOfCall = true → Journal.hops [entry] = [] →
      v.Spends (v.record entry) := fun v entry ofCall nothing =>
    .of_silent rfl (fun _ among => List.mem_singleton.mp among ▸ ofCall) nothing rfl
  unfold expire
  split
  · exact .refl w
  · exact ((Spends.refl w).log _).trans (sent _ _ rfl rfl)
  · exact sent _ _ rfl rfl

end World

namespace Client

open World (Spends)

variable {α : Type} (client : Client) (w : World)

theorem spends_authorize (request : Http.Request) : w.Spends (authorize request w).2 := by
  have looked := w.spends_token
  unfold authorize
  split
  next v none =>
    rw [none] at looked
    exact looked.log _
  next text v some =>
    rw [some] at looked
    split
    · exact looked.log _
    · exact (looked.log _).log _

theorem spends_attempt (request : Http.Request) : w.Spends (attempt request w).2 := by
  refine (spends_authorize w request).trans ?_
  unfold attempt
  generalize authorize request w = authorized
  obtain ⟨authorized, v⟩ := authorized
  -- each hop of the exchange has used up one reply
  have drops := Http.exchange_drops Http.redirectLimit v.farEnd authorized
  simp only
  generalize Http.exchange Http.redirectLimit v.farEnd authorized = exchange at drops ⊢
  refine ⟨exchange.hops.map .sent, rfl, ?_, by rw [Journal.hops_sent]; exact drops⟩
  intro entry among
  obtain ⟨hop, _, rfl⟩ := List.mem_map.mp among
  rfl

theorem spends_persist (request : Http.Request) (retries : Nat) :
    w.Spends (persist request retries w).2 := by
  induction retries generalizing w with
  | zero => exact spends_attempt w request
  | succ retries ih =>
    have tried := spends_attempt w request
    rw [persist]
    split
    next outcome v ended =>
      rw [ended] at tried
      split
      · exact tried.trans (ih v)
      · exact tried

theorem spends_guard (outcome : Http.Outcome) : w.Spends (client.guard outcome w) := by
  unfold guard
  split
  · split
    · exact ((Spends.refl w).log _).trans ((World.spends_evict _).trans (World.spends_expire _ _))
    · exact .refl w
  · exact .refl w

theorem spends_conclude (decode : ByteArray → Option α) (method : String) (url : Url)
    (outcome : Http.Outcome) : w.Spends (client.conclude decode method url outcome w).2 := by
  unfold conclude
  split
  · exact (Spends.refl w).log _
  · exact (Spends.refl w).log _
  · split <;> exact (Spends.refl w).log _

theorem spends_request (decode : ByteArray → Option α) (method path : String)
    (body : Option String) : w.Spends (client.request decode method path body w).2 := by
  cases address : client.urlFor path with
  | error e =>
    rw [Client.request, address]
    exact .refl w
  | ok url =>
    rw [request_of_address decode method body w address]
    exact (spends_persist w _ _).trans ((spends_guard client _ _).trans
      (spends_conclude client _ decode method url _))

/-! ### A call that is made once -/

variable {client w} {decode : ByteArray → Option α} {method path : String} {body : Option String}
  {v : World} {result : Except TransportError (Answer α)}

theorem spends_of_request (called : client.request decode method path body w = (result, v)) :
    w.Spends v := by
  have spends := spends_request client w decode method path body
  rw [called] at spends
  exact spends

/-- The requests of an attempt are those of its exchange. -/
theorem hops_attempt (request : Http.Request) (w : World) :
    ((attempt request w).2.since w).hops =
      (Http.exchange Http.redirectLimit w.farEnd (authorize request w).1).hops := by
  obtain ⟨remarks, silent, same⟩ := remarks_authorize request w
  unfold attempt
  simp only [same]
  have met : (w.append remarks).farEnd = w.farEnd := rfl
  rw [met]
  generalize Http.exchange Http.redirectLimit w.farEnd (authorize request w).1 = exchange
  have added : ∀ v : World, v.journal = w.journal ++ remarks ++ exchange.hops.map .sent →
      (v.since w).hops = exchange.hops := by
    intro v grown
    rw [List.append_assoc] at grown
    rw [World.since_eq grown, Journal.hops_append, silent, Journal.hops_sent, List.nil_append]
  exact added _ rfl

theorem attempt_of_direct (direct : w.farEnd.IsDirect) (request : Http.Request) :
    ((attempt request w).2.since w).hops.length ≤ 1 := by
  rw [hops_attempt]
  exact Http.exchange_of_direct direct Http.redirectLimit (authorize request w).1

/-- All requests of a call that is made once are its first one. -/
theorem requests_of_direct (direct : w.farEnd.IsDirect) (single : client.maxRetries = 0)
    (called : client.request decode method path body w = (result, v)) :
    (v.since w).requests = (client.firstRequest? method path body w).toList := by
  have few : (v.since w).requests.length ≤ 1 := by
    cases address : client.urlFor path with
    | error e =>
      rw [Client.request, address] at called
      cases called
      rw [World.since_self]
      exact Nat.zero_le 1
    | ok url =>
      have same : client.once = client := by
        cases client
        cases single
        rfl
      obtain ⟨aftermath, nothing, grown⟩ := once_grows decode method body w address
      rw [same, called] at grown
      obtain ⟨sent, grown', _⟩ := spends_attempt w (Http.Request.to method url body)
      rw [grown', List.append_assoc] at grown
      have once := attempt_of_direct direct (Http.Request.to method url body)
      rw [World.since_eq grown'] at once
      rw [Journal.requests_eq, List.length_map, World.since_eq grown, Journal.hops_append, nothing,
        List.append_nil]
      exact once
  -- a list of at most one element is known by its first
  rw [← head?_requests_of_request called]
  rcases Nat.le_one_iff_eq_zero_or_eq_one.mp few with none | one
  · rw [List.length_eq_zero_iff.mp none]
    rfl
  · obtain ⟨request, same⟩ := List.length_eq_one_iff.mp one
    rw [same]
    rfl

/-- A call that is made once makes its request if that gets to the far end, and else none. -/
theorem hops_of_direct (direct : w.farEnd.IsDirect) (single : client.maxRetries = 0)
    (called : client.request decode method path body w = (result, v)) :
    (client.Reaches path w.farEnd ∧
        ∃ hop, (v.since w).hops = [hop] ∧ hop.request.Asks client method path body) ∨
      (¬ client.Reaches path w.farEnd ∧ (v.since w).hops = []) := by
  have sent := requests_of_direct direct single called
  have reaches : (client.firstRequest? method path body w).isSome = true ↔
      client.Reaches path w.farEnd := firstRequest?_isSome_iff
  rw [Journal.requests_eq] at sent
  rw [← reaches]
  cases first : client.firstRequest? method path body w with
  | none =>
    rw [first, Option.toList_none, List.map_eq_nil_iff] at sent
    exact Or.inr ⟨by simp, sent⟩
  | some request =>
    rw [first, Option.toList_some, List.map_eq_singleton_iff] at sent
    obtain ⟨hop, hops, rfl⟩ := sent
    exact Or.inl ⟨rfl, hop, hops, asks_of_firstRequest? first⟩

theorem direct_of_spends (direct : w.farEnd.IsDirect) (spends : w.Spends v) :
    v.farEnd.IsDirect ∧ v.farEnd.isReachable = w.farEnd.isReachable := by
  obtain ⟨news, _, _, drops⟩ := spends
  rw [drops]
  exact ⟨direct.drop _, Http.FarEnd.isReachable_drop _⟩

end Client

end TeacherRegistry
