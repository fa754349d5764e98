import TeacherRegistry.Proofs.AcceptedBases
import TeacherRegistry.Proofs.ChangeTraces
import TeacherRegistry.Proofs.Validation

/-!
# What single calls hear

A call that is made once gets the reply that the far end has in store for it, and this reply decides
what the call comes to. If the list can be requested then so can every record, so that what happens
at a submission can be told from the draft and the next reply.
-/

namespace TeacherRegistry

open Json (Value)
open Http (FarEnd Hop Reply finalResponse?)

namespace Http

/-- What a far end that can be reached does with the next request. -/
def FarEnd.upcoming (replies : List Reply) : Reply :=
  replies.headD (.answer notFound)

theorem FarEnd.next_script (replies : List Reply) :
    (FarEnd.script replies).next.1 = some (upcoming replies) := by
  cases replies <;> rfl

/-- A request that is replied to gets the next reply. -/
theorem next_of_send {farEnd later : FarEnd} {request : Request} {turn : Turn} {hop : Hop}
    {rest : List Hop} (sent : send farEnd request = (turn, later, hop :: rest)) :
    farEnd.next.1 = some hop.reply := by
  unfold send at sent
  split at sent
  · cases sent
  · split at sent
    · cases sent
    next reply after next =>
      cases sent
      rw [next]

theorem next_of_exchange {room : Nat} {farEnd : FarEnd} {request : Request} {hop : Hop}
    {rest : List Hop} (sent : (exchange room farEnd request).hops = hop :: rest) :
    farEnd.next.1 = some hop.reply := by
  cases first : send farEnd request with
  | mk turn others =>
    obtain ⟨later, hops⟩ := others
    -- nothing is redirected that was not replied to
    cases turn with
    | ended outcome =>
      rw [exchange_of_ended first] at sent
      subst sent
      exact next_of_send first
    | redirected next =>
      rcases eq_of_send first with ⟨⟨_, lost⟩, _⟩ | ⟨reply, _, rfl⟩
      · cases lost
      · have same : ⟨request, reply⟩ = hop := by
          cases room <;> rw [exchange, first] at sent <;> exact (List.cons.inj sent).1
        rw [← same]
        exact next_of_send first

/-- A request has an answer: the response to it is there in full and tells of success, and nothing
in it passes for JSON and is none. -/
def Hop.IsAnswered (hop : Hop) : Prop :=
  ∃ response, finalResponse? [hop] = some response ∧ response.isSuccess = true ∧
    response.IsLegible

end Http

namespace Client

variable {client : Client} {α : Type} {decode : ByteArray → Option α} {method path : String}
  {body : Option String} {w v : World} {result : Except TransportError (Answer α)}

/-- The first request of a call that is made once gets the next reply. -/
theorem next_of_request (once : client.maxRetries = 0)
    (called : client.request decode method path body w = (result, v)) {hop : Hop} {rest : List Hop}
    (sent : (v.since w).hops = hop :: rest) : w.farEnd.next.1 = some hop.reply := by
  cases address : client.urlFor path with
  | error e =>
    rw [Client.request, address] at called
    cases called
    rw [World.since_self] at sent
    cases sent
  | ok url =>
    have same : client.once = client := by
      cases client
      cases once
      rfl
    obtain ⟨aftermath, nothing, grown⟩ := once_grows decode method body w address
    rw [same, called] at grown
    obtain ⟨tried, grown', _⟩ := spends_attempt w (Http.Request.to method url body)
    rw [grown', List.append_assoc] at grown
    have hops := hops_attempt (Http.Request.to method url body) w
    rw [World.since_eq grown'] at hops
    rw [World.since_eq grown, Journal.hops_append, nothing, List.append_nil, hops] at sent
    exact Http.next_of_exchange sent

/-- Where one path can be requested every path can: only the server decides about it. -/
theorem reaches_of_reaches {base : Url} (parsed : Url.parse client.baseUrl = .ok base)
    (network : Url.IsNetwork base.scheme) {farEnd : FarEnd} (reaches : client.Reaches path farEnd)
    (other : String) : client.Reaches other farEnd := by
  obtain ⟨url, address, sendable, here⟩ := reaches
  have joinable := (urlFor_isOk_iff parsed network path).mp ⟨url, address⟩
  obtain ⟨url', address'⟩ := (urlFor_isOk_iff parsed network other).mpr joinable
  have same : ∀ {path url}, client.urlFor path = .ok url →
      Http.isSendable url.requested = Http.isSendable base := by
    intro path url address
    obtain ⟨_, _, _, rfl⟩ := Url.parse_behind parsed network (parse_of_urlFor address)
    exact Url.isSendable_requested rfl rfl
  exact ⟨url', address', ((same address').trans (same address).symm).trans sendable, here⟩

/-- A far end that replies from a script can always be reached. -/
theorem Reaches.of_script {farEnd farEnd' : FarEnd} {replies : List Reply}
    (reaches : client.Reaches path farEnd) (script : farEnd' = .script replies) :
    client.Reaches path farEnd' := by
  obtain ⟨url, address, sendable, _⟩ := reaches
  exact ⟨url, address, sendable, by rw [script]; rfl⟩

theorem answered_iff_of_hop {result : Except TransportError (Answer Value)} {hop : Hop}
    (called : client.request Value.ofBytes? method path body w = (result, v))
    (sent : (v.since w).hops = [hop]) : (∃ answer, result = .ok answer) ↔ hop.IsAnswered := by
  have verdict := client.verdict_request Value.ofBytes? method path body w
  simp only [called, sent] at verdict
  unfold Hop.IsAnswered
  cases final : finalResponse? [hop] with
  | some response =>
    rw [final] at verdict
    simpa using verdict.answered_iff
  | none =>
    rw [final] at verdict
    generalize (client.urlFor path).toOption = url? at verdict
    cases verdict <;> simp

end Client

namespace Controller

variable {client : Client} {c : Controller} {w : World}

/-- What a submission that is sent comes to: its request is answered, and the list is requested
again, or it is not, and that is all. -/
inductive Concludes (client : Client) (method path : String) (body : Option String)
    (reply : Reply) : Except Error SaveOutcome → List Http.Request → Prop where
  | accepted {change again : Http.Request} {outcome : SaveOutcome}
    (asks : change.Asks client method path body) (answered : Hop.IsAnswered ⟨change, reply⟩)
    (rereads : again.Asks client "GET" listPath none) :
    Concludes client method path body reply (.ok outcome) [change, again]
  | refused {change : Http.Request} {e : Error}
    (asks : change.Asks client method path body) (refused : ¬ Hop.IsAnswered ⟨change, reply⟩) :
    Concludes client method path body reply (.error e) [change]

private theorem concludes_save {replies : List Reply} (stored : w.farEnd = .script replies)
    (direct : w.farEnd.IsDirect) (once : client.maxRetries = 0) {outcome : SaveOutcome}
    {method path : String} (planned : c.plan = .ok (outcome, method, path))
    (reaches : client.Reaches path w.farEnd) :
    Concludes client method path (some c.draft.json) (FarEnd.upcoming replies)
      (save client c w).result ((save client c w).world.since w).requests := by
  -- the request for the change, and the reply to it
  have change : ∀ {result v},
      client.request Value.ofBytes? method path (some c.draft.json) w = (result, v) →
      ∃ request : Http.Request, (v.since w).hops = [⟨request, FarEnd.upcoming replies⟩] ∧
        request.Asks client method path (some c.draft.json) := by
    intro result v called
    rcases Client.hops_of_direct direct once called with ⟨_, hop, sent, asks⟩ | ⟨lost, _⟩
    · have next := Client.next_of_request once called sent
      rw [stored, FarEnd.next_script] at next
      obtain ⟨request, reply⟩ := hop
      cases next
      exact ⟨request, sent, asks⟩
    · exact absurd reaches lost
  have ends := saving_save client c w
  generalize save client c w = effect at ends
  cases ends with
  | invalid fault =>
    rw [planned] at fault
    cases fault
  | @refused outcome' method' path' e v planned' called =>
    cases planned.symm.trans planned'
    obtain ⟨request, sent, asks⟩ := change called
    have told := World.silent_notify v .failure (saveFailure ++ ": " ++ e.message)
    rw [notifyFailure, Journal.requests_eq, (client.precedes_of_request called).hops_since told, sent]
    refine .refused asks fun answered => ?_
    obtain ⟨answer, impossible⟩ := (Client.answered_iff_of_hop called sent).mpr answered
    cases impossible
  | @accepted outcome' method' path' answer u v later planned' called reloaded =>
    cases planned.symm.trans planned'
    obtain ⟨request, sent, asks⟩ := change called
    obtain ⟨first, again, both, _, rereads, _⟩ :=
      traces_of_change direct once (registryPath_of_plan planned) called reloaded
    have all := World.since_trans (client.precedes_of_request called) (precedes_of_reload reloaded)
    rw [Journal.requests_eq, both]
    rw [all, Journal.hops_append, sent] at both
    obtain ⟨rfl, _⟩ := List.cons.inj both
    exact .accepted asks ((Client.answered_iff_of_hop called sent).mp ⟨answer, rfl⟩) rereads

theorem concludes_submit {replies : List Reply} (stored : w.farEnd = .script replies)
    (direct : w.farEnd.IsDirect) (once : client.maxRetries = 0) {outcome : SaveOutcome}
    {method path : String} (planned : c.plan = .ok (outcome, method, path))
    (reaches : client.Reaches path w.farEnd) :
    Concludes client method path (some c.draft.json) (FarEnd.upcoming replies)
      (submit client c w).result ((submit client c w).world.since w).requests :=
  concludes_save (w := w.enter (.submit c.editing)) stored direct once planned reaches

/-- The first load, from a far end that has a first reply in store: if there is a list in the reply
then the collection is that list, and otherwise the load fails. -/
theorem load_of_reply {first : Reply} {replies : List Reply}
    (stored : w.farEnd = .script (first :: replies)) (direct : w.farEnd.IsDirect)
    (once : client.maxRetries = 0) (reaches : client.Reaches listPath w.farEnd) :
    ∃ list : Http.Request, list.Asks client "GET" listPath none ∧
      ((load client c w).world.since w).requests = [list] ∧
      (load client c w).world.farEnd = .script replies ∧
      ∀ teachers, Hop.listed? ⟨list, first⟩ = some teachers →
        (load client c w).result = .ok () ∧
          (load client c w).controller = { c with collection := teachers } := by
  have ends := refreshing_refresh client c (w.enter .load)
  rw [load, since_within, controller_within]
  simp only [within]
  generalize refresh client c (w.enter .load) = effect at ends
  -- the request for the list and what it leaves in store
  have request : ∀ {result v}, fetch client (w.enter .load) = (result, v) →
      ∃ list : Http.Request, list.Asks client "GET" listPath none ∧
        (v.since (w.enter .load)).hops = [⟨list, first⟩] ∧ v.farEnd = .script replies ∧
        Hop.listed? ⟨list, first⟩ = result.toOption := by
    intro result v fetched
    obtain ⟨hop, sent, asks, listed⟩ :=
      hop_of_fetch (w := w.enter .load) direct once reaches fetched
    obtain ⟨answer, called⟩ := request_of_fetch fetched
    have next := Client.next_of_request once called sent
    obtain ⟨news, grown, _, left⟩ := Client.spends_of_request called
    rw [World.since_eq grown] at sent
    have before : (w.enter .load).farEnd = .script (first :: replies) := stored
    rw [before] at next left
    cases next
    rw [sent] at left
    exact ⟨hop.request, asks, by rw [World.since_eq grown, sent], left, listed⟩
  cases ends with
  | @failed e v fetched =>
    obtain ⟨list, asks, sent, left, listed⟩ := request fetched
    obtain ⟨answer, called⟩ := request_of_fetch fetched
    have told := World.silent_notify v .failure (loadFailure ++ ": " ++ e.message)
    refine ⟨list, asks, ?_, left, fun teachers found => ?_⟩
    · rw [notifyFailure, Journal.requests_eq, (client.precedes_of_request called).hops_since told,
        sent]
      rfl
    · rw [listed] at found
      cases found
  | @done held v fetched =>
    obtain ⟨list, asks, sent, left, listed⟩ := request fetched
    obtain ⟨answer, called⟩ := request_of_fetch fetched
    have told := World.silent_log v (.collectionLoaded held.length)
    refine ⟨list, asks, ?_, left, fun teachers found => ?_⟩
    · rw [Journal.requests_eq, (client.precedes_of_request called).hops_since told, sent]
      rfl
    · rw [listed] at found
      cases found
      exact ⟨rfl, rfl⟩

end Controller

end TeacherRegistry
