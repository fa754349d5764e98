import TeacherRegistry.Http.Exchange

/-!
# What the last reply says of an exchange

An exchange sends nothing unless its address can be requested and the far end can be reached, and
then its first request is the one that was asked for. Its outcome follows from the last request and
the reply to it: a reply that redirects no further is the outcome itself.
-/

namespace TeacherRegistry.Http

/-- Whether requests get there at all. -/
def FarEnd.isReachable : FarEnd → Bool
  | .unreachable => false
  | .script _ => true

/-- The status of a reply, if the headers of a response arrived. -/
def Reply.status? : Reply → Option Nat
  | .answer response | .cut response => some response.status
  | .drop | .hang => none

/-- The status of an outcome, if there was a response. -/
def Outcome.status? : Outcome → Option Nat
  | .received _ response _ => some response.status
  | .failed _ => none

/-- What a request and the reply to it lead to. -/
def Hop.turn (hop : Hop) : Turn :=
  match hop.reply with
  | .answer response => Turn.of hop.request response true
  | .cut response => Turn.of hop.request response false
  | .drop => .ended (.failed (.unsent hop.request.url.text))
  | .hang => .ended (.failed .timedOut)

/-- The outcome that requests with their replies lead to: that of the last one, and a failure if it
leads on or if there is none. -/
def Ends (hops : List Hop) (outcome : Outcome) : Prop :=
  match hops.getLast? with
  | none => ∃ failure, outcome = .failed failure
  | some hop =>
    match hop.turn with
    | .ended final => outcome = final
    | .redirected _ => ∃ failure, outcome = .failed failure

theorem Ends.prepend {hops : List Hop} {outcome : Outcome} (ends : Ends hops outcome)
    (filled : hops ≠ []) (earlier : List Hop) : Ends (earlier ++ hops) outcome := by
  unfold Ends at *
  rw [List.getLast?_append]
  -- only the last of all requests counts, and that one is among the later ones
  cases last : hops.getLast? with
  | none => exact absurd (List.getLast?_eq_none_iff.mp last) filled
  | some hop =>
    rw [last] at ends
    exact ends

/-- An outcome that is no failure is what the last reply led to. -/
theorem Ends.last {hops : List Hop} {outcome : Outcome} (ends : Ends hops outcome)
    (received : ∀ failure, outcome ≠ .failed failure) :
    ∃ hop, hops.getLast? = some hop ∧ hop.turn = .ended outcome := by
  unfold Ends at ends
  -- nothing sent, and a last reply that leads on, both make a failure
  split at ends
  · obtain ⟨failure, failed⟩ := ends
    exact absurd failed (received failure)
  next hop last =>
    split at ends
    next final turn => exact ⟨hop, last, by rw [turn, ends]⟩
    · obtain ⟨failure, failed⟩ := ends
      exact absurd failed (received failure)

/-- What the last reply ended with is the outcome. -/
theorem Ends.eq_of_last {hops : List Hop} {outcome final : Outcome} (ends : Ends hops outcome)
    {hop : Hop} (last : hops.getLast? = some hop) (turn : hop.turn = .ended final) :
    outcome = final := by
  unfold Ends at ends
  rw [last] at ends
  simp only [turn] at ends
  exact ends

/-- Whether a request reaches the far end. -/
def Request.reaches (request : Request) (farEnd : FarEnd) : Bool :=
  isSendable request.url && farEnd.isReachable

/-- A request that does not reach the far end fails. -/
theorem send_of_lost {farEnd : FarEnd} {request : Request}
    (lost : request.reaches farEnd = false) :
    ∃ failure, send farEnd request = (.ended (.failed failure), farEnd, []) := by
  unfold send
  by_cases sendable : isSendable request.url = true
  · cases farEnd with
    | script replies => simp [Request.reaches, sendable, FarEnd.isReachable] at lost
    | unreachable => exact ⟨.unsent request.url.text, by simp [sendable, FarEnd.next]⟩
  · exact ⟨.unsendable request.url.text, by simp [sendable]⟩

/-- A request that reaches the far end is replied to. -/
theorem send_of_reaches {farEnd : FarEnd} {request : Request}
    (reaches : request.reaches farEnd = true) :
    ∃ reply later, later.isReachable = farEnd.isReachable ∧
      send farEnd request = (Hop.turn ⟨request, reply⟩, later, [⟨request, reply⟩]) := by
  obtain ⟨sendable, here⟩ := Bool.and_eq_true_iff.mp reaches
  have replied : ∃ reply later, farEnd.next = (some reply, later) ∧ later.isReachable = true := by
    cases farEnd with
    | unreachable => cases here
    | script replies =>
      -- a script that has run out still replies
      cases replies with
      | nil => exact ⟨.answer notFound, .script [], rfl, rfl⟩
      | cons reply rest => exact ⟨reply, .script rest, rfl, rfl⟩
  obtain ⟨reply, later, next, reachable⟩ := replied
  refine ⟨reply, later, by rw [reachable, here], ?_⟩
  unfold send
  simp only [sendable, Bool.not_true, Bool.false_eq_true, if_false, next]
  cases reply <;> rfl

/-- What is known of every exchange. -/
structure Exchange.Follows (exchange : Exchange) (farEnd : FarEnd) (request : Request) : Prop where
  ends : Ends exchange.hops exchange.outcome
  first : exchange.hops.head?.map Hop.request =
    if request.reaches farEnd = true then some request else none
  reachable : exchange.farEnd.isReachable = farEnd.isReachable

theorem exchange_of_ended {farEnd later : FarEnd} {request : Request} {outcome : Outcome}
    {hops : List Hop} (sent : send farEnd request = (.ended outcome, later, hops)) (room : Nat) :
    exchange room farEnd request = ⟨outcome, later, hops⟩ := by
  cases room <;> simp only [exchange, sent]

private theorem follows_of_ended {farEnd : FarEnd} {request : Request} {outcome : Outcome}
    (ended : (send farEnd request).1 = .ended outcome) (room : Nat) :
    (exchange room farEnd request).Follows farEnd request := by
  by_cases reaches : request.reaches farEnd = true
  · obtain ⟨reply, later, reachable, sent⟩ := send_of_reaches reaches
    rw [sent] at ended
    simp only at ended
    rw [ended] at sent
    rw [exchange_of_ended sent]
    exact ⟨by simp [Ends, ended], by simp [reaches], reachable⟩
  · obtain ⟨failure, sent⟩ := send_of_lost (Bool.eq_false_iff.mpr reaches)
    rw [exchange_of_ended sent]
    exact ⟨⟨failure, rfl⟩, by simp [reaches], rfl⟩

/-- Only a request that reached the far end is redirected. -/
private theorem send_of_redirected {farEnd : FarEnd} {request next : Request}
    (redirected : (send farEnd request).1 = .redirected next) :
    request.reaches farEnd = true ∧
      ∃ reply later, later.isReachable = farEnd.isReachable ∧
        Hop.turn ⟨request, reply⟩ = .redirected next ∧
        send farEnd request = (.redirected next, later, [⟨request, reply⟩]) := by
  by_cases reaches : request.reaches farEnd = true
  · obtain ⟨reply, later, reachable, sent⟩ := send_of_reaches reaches
    rw [sent] at redirected ⊢
    simp only at redirected
    exact ⟨reaches, reply, later, reachable, redirected, by rw [redirected]⟩
  · obtain ⟨failure, sent⟩ := send_of_lost (Bool.eq_false_iff.mpr reaches)
    rw [sent] at redirected
    cases redirected

theorem exchange_follows (room : Nat) (farEnd : FarEnd) (request : Request) :
    (exchange room farEnd request).Follows farEnd request := by
  -- the next request goes to the far end as the first one left it
  induction room generalizing farEnd request with
  | zero =>
    cases turn : (send farEnd request).1 with
    | ended outcome => exact follows_of_ended turn 0
    | redirected next =>
      obtain ⟨reaches, reply, later, reachable, leads, sent⟩ := send_of_redirected turn
      rw [exchange, sent]
      -- no room for another request: the last reply leads on, which is a failure
      exact ⟨by simp [Ends, leads], by simp [reaches], reachable⟩
  | succ room ih =>
    cases turn : (send farEnd request).1 with
    | ended outcome => exact follows_of_ended turn (room + 1)
    | redirected next =>
      obtain ⟨reaches, reply, later, reachable, leads, sent⟩ := send_of_redirected turn
      have rest := ih later next
      rw [exchange, sent]
      refine ⟨?_, by simp [reaches], rest.reachable.trans reachable⟩
      -- if the next request cannot be sent, the redirection is the last thing that was heard
      by_cases filled : (exchange room later next).hops = []
      · have failed := rest.ends
        rw [filled] at failed
        simp only [filled, List.append_nil]
        simpa [Ends, leads] using failed
      · exact rest.ends.prepend filled [⟨request, reply⟩]

/-- The status of the last reply. -/
def finalStatus? (hops : List Hop) : Option Nat :=
  hops.getLast?.bind fun hop => hop.reply.status?

/-- The status of a response is that of the reply it came with. -/
theorem status_of_received {hop : Hop} {url : Url} {response : Response} {complete : Bool}
    (turn : hop.turn = .ended (.received url response complete)) :
    hop.reply.status? = some response.status := by
  have kept : ∀ (written : Response) (arrived : Bool),
      Turn.of hop.request written arrived = .ended (.received url response complete) →
        written.status = response.status := by
    intro written arrived ended
    unfold Turn.of at ended
    split at ended
    · simp only [Turn.ended.injEq, Outcome.received.injEq] at ended
      rw [← ended.2.1]
      unfold Response.answering
      split <;> rfl
    · cases ended
  -- the status is that of the headers, however much of the body arrives
  unfold Hop.turn at turn
  split at turn
  next written reply => rw [reply, Reply.status?, kept written true turn]
  next written reply => rw [reply, Reply.status?, kept written false turn]
  · cases turn
  · cases turn

private theorem ended_of_status {hop : Hop} {status : Nat}
    (final : ∀ request : Request, request.redirected? status = none)
    (replied : hop.reply.status? = some status) :
    ∃ outcome, hop.turn = .ended outcome ∧ outcome.status? = some status := by
  have stays : ∀ (written : Response) (arrived : Bool), written.status = status →
      ∃ outcome, Turn.of hop.request written arrived = .ended outcome ∧
        outcome.status? = some status := by
    intro written arrived same
    have nowhere : hop.request.next? written = none := by
      simp only [Request.next?, same, final, bind, Option.bind_none]
    refine ⟨_, by rw [Turn.of, nowhere], ?_⟩
    simp only [Outcome.status?, Response.answering]
    split <;> simp [same]
  unfold Hop.turn
  cases reply : hop.reply with
  | answer written =>
    rw [reply] at replied
    exact stays written true (Option.some.inj replied)
  | cut written =>
    rw [reply] at replied
    exact stays written false (Option.some.inj replied)
  | drop =>
    rw [reply] at replied
    cases replied
  | hang =>
    rw [reply] at replied
    cases replied

/-- A status that redirects nowhere is the status of the outcome if it is that of the last reply,
and only then. -/
theorem Ends.status_iff {hops : List Hop} {outcome : Outcome} (ends : Ends hops outcome)
    {status : Nat} (final : ∀ request : Request, request.redirected? status = none) :
    outcome.status? = some status ↔ finalStatus? hops = some status := by
  unfold finalStatus?
  constructor
  · intro same
    cases outcome with
    | failed failure => cases same
    | received url response complete =>
      obtain ⟨hop, last, turn⟩ := ends.last nofun
      rw [last, Option.bind_some, status_of_received turn]
      exact same
  · intro replied
    obtain ⟨hop, last, same⟩ := Option.bind_eq_some_iff.mp replied
    obtain ⟨reached, turn, status⟩ := ended_of_status final same
    rw [ends.eq_of_last last turn, status]

/-- A complete response with a body is one that arrived in full. -/
theorem reply_of_received {hop : Hop} {url : Url} {response : Response}
    (turn : hop.turn = .ended (.received url response true)) :
    response.body = .empty ∨
      (hop.reply = .answer response ∧ response.isBodiless hop.request.method = false) := by
  have kept : ∀ (written : Response) (arrived : Bool),
      Turn.of hop.request written arrived = .ended (.received url response true) →
        response.body = .empty ∨ (arrived = true ∧ written = response ∧
          response.isBodiless hop.request.method = false) := by
    intro written arrived ended
    unfold Turn.of at ended
    split at ended
    · simp only [Turn.ended.injEq, Outcome.received.injEq] at ended
      obtain ⟨_, same, whole⟩ := ended
      unfold Response.answering at same whole
      split at same
      next bodiless =>
        rw [← same]
        exact Or.inl rfl
      next bodied =>
        rw [if_neg bodied] at whole
        exact Or.inr ⟨whole, same, same ▸ Bool.eq_false_iff.mpr bodied⟩
    · cases ended
  unfold Hop.turn at turn
  split at turn
  next written reply =>
    rcases kept written true turn with empty | ⟨_, same, bodied⟩
    · exact Or.inl empty
    · exact Or.inr ⟨same ▸ reply, bodied⟩
  next written reply =>
    -- a body that was cut off is complete only if there should have been none
    rcases kept written false turn with empty | ⟨impossible, _⟩
    · exact Or.inl empty
    · cases impossible
  · cases turn
  · cases turn

/-- A response that tells of success and has a body redirects nowhere. -/
theorem turn_of_success {hop : Hop} {response : Response} (reply : hop.reply = .answer response)
    (success : response.isSuccess = true)
    (bodied : response.isBodiless hop.request.method = false) :
    hop.turn = .ended (.received hop.request.url response true) := by
  have range : 200 ≤ response.status ∧ response.status < 300 := by
    simpa [Response.isSuccess] using success
  have stays : hop.request.redirected? response.status = none := by
    -- every status that redirects is above 300
    unfold Request.redirected?
    rw [if_neg (by omega), if_neg (by omega), if_neg (by omega)]
  have nowhere : hop.request.next? response = none := by
    simp only [Request.next?, stays, bind, Option.bind_none]
  simp only [Hop.turn, reply, Turn.of, nowhere, Response.answering, bodied, Bool.false_eq_true,
    if_false]

end TeacherRegistry.Http
