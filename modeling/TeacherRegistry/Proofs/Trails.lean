import TeacherRegistry.Proofs.Calls

/-!
# The trail of a request

The requests of one exchange form a trail: every one but the last was redirected to the next. A
redirection takes the same request to another address, or it makes an inquiry of it, which changes
nothing and stays an inquiry. So somewhere on its trail a request was made for the last time, and
whatever comes after that is an inquiry.
-/

namespace TeacherRegistry

namespace Http

/-- The requests that follow from one request, with their replies, and what comes of them. -/
inductive Trail : Request → List Hop → Outcome → Prop where
  | lost (request : Request) (failure : Failure) : Trail request [] (.failed failure)
  | ended {hop : Hop} {outcome : Outcome} (turn : hop.turn = .ended outcome) :
    Trail hop.request [hop] outcome
  /-- A redirection too many. -/
  | halted {hop : Hop} {next : Request} (turn : hop.turn = .redirected next) (failure : Failure) :
    Trail hop.request [hop] (.failed failure)
  | redirected {hop : Hop} {next : Request} {rest : List Hop} {outcome : Outcome}
    (turn : hop.turn = .redirected next) (trail : Trail next rest outcome) :
    Trail hop.request (hop :: rest) outcome

/-- One request is lost, or it is replied to. -/
theorem eq_of_send {farEnd later : FarEnd} {request : Request} {turn : Turn}
    {hops : List Hop} (sent : send farEnd request = (turn, later, hops)) :
    ((∃ failure, turn = .ended (.failed failure)) ∧ hops = []) ∨
      ∃ reply, turn = Hop.turn ⟨request, reply⟩ ∧ hops = [⟨request, reply⟩] := by
  by_cases reaches : request.reaches farEnd = true
  · obtain ⟨reply, _, _, replied⟩ := send_of_reaches reaches
    rw [sent] at replied
    simp only [Prod.mk.injEq] at replied
    exact Or.inr ⟨reply, replied.1, replied.2.2⟩
  · obtain ⟨failure, lost⟩ := send_of_lost (Bool.eq_false_iff.mpr reaches)
    rw [sent] at lost
    simp only [Prod.mk.injEq] at lost
    exact Or.inl ⟨⟨failure, lost.1⟩, lost.2.2⟩

theorem exchange_trail (room : Nat) (farEnd : FarEnd) (request : Request) :
    Trail request (exchange room farEnd request).hops (exchange room farEnd request).outcome := by
  fun_induction exchange room farEnd request with
  | case1 room farEnd request outcome later hops sent =>
    rcases eq_of_send sent with ⟨⟨failure, ended⟩, rfl⟩ | ⟨reply, ended, rfl⟩
    · cases ended
      exact .lost request failure
    · have turn : Hop.turn ⟨request, reply⟩ = .ended outcome := ended.symm
      exact .ended turn
  | case2 farEnd request next later hops sent =>
    rcases eq_of_send sent with ⟨⟨failure, ended⟩, _⟩ | ⟨reply, leads, rfl⟩
    · cases ended
    · have turn : Hop.turn ⟨request, reply⟩ = .redirected next := leads.symm
      exact .halted turn _
  | case3 farEnd request next later hops sent room rest ih =>
    rcases eq_of_send sent with ⟨⟨failure, ended⟩, _⟩ | ⟨reply, leads, rfl⟩
    · cases ended
    · have turn : Hop.turn ⟨request, reply⟩ = .redirected next := leads.symm
      exact .redirected turn ih

/-- A response is what the last reply of the trail ended with. -/
theorem Trail.last {request : Request} {hops : List Hop} {url : Url} {response : Response}
    {complete : Bool} (trail : Trail request hops (.received url response complete)) :
    ∃ hop, hops.getLast? = some hop ∧ hop.turn = .ended (.received url response complete) := by
  generalize received : Outcome.received url response complete = outcome at trail
  induction trail with
  | lost | halted => cases received
  | @ended hop outcome turn => exact ⟨hop, rfl, turn⟩
  | redirected turn trail ih =>
    obtain ⟨hop, last, ended⟩ := ih received
    exact ⟨hop, by rw [List.getLast?_cons, last, Option.getD_some], ended⟩

/-! ### What a redirection makes of a request -/

/-- A request that asks for something and carries nothing. -/
structure Request.IsInquiry (request : Request) : Prop where
  method : request.method = "GET"
  body : request.body = ""

/-- Whether a status makes an inquiry of a request. -/
def Request.yieldsTo (request : Request) (status : Nat) : Prop :=
  status = 303 ∨ request.method = "POST" ∧ (status = 301 ∨ status = 302)

/-- A request that is replied to by a redirection which makes an inquiry of it. -/
def Hop.Yields (hop : Hop) : Prop :=
  ∃ status next, hop.reply.status? = some status ∧ hop.request.yieldsTo status ∧
    hop.turn = .redirected next

theorem redirected?_cases {request next : Request} {status : Nat}
    (other : request.method ≠ "HEAD") (redirected : request.redirected? status = some next) :
    next = request ∨ request.yieldsTo status ∧ next = request.asGet := by
  unfold Request.redirected? at redirected
  rw [if_neg other] at redirected
  split at redirected
  next moved =>
    split at redirected
    next post =>
      cases redirected
      exact Or.inr ⟨Or.inr ⟨post, moved⟩, rfl⟩
    · cases redirected
      exact Or.inl rfl
  · split at redirected
    next elsewhere =>
      cases redirected
      exact Or.inr ⟨Or.inl elsewhere, rfl⟩
    · split at redirected
      · cases redirected
        exact Or.inl rfl
      · cases redirected

theorem next_of_turn {hop : Hop} {next : Request} (turn : hop.turn = .redirected next) :
    ∃ status redirected url, hop.reply.status? = some status ∧
      hop.request.redirected? status = some redirected ∧ next = redirected.moveTo url := by
  have moved : ∀ (response : Response) (arrived : Bool),
      Turn.of hop.request response arrived = .redirected next →
        ∃ redirected url, hop.request.redirected? response.status = some redirected ∧
          next = redirected.moveTo url := by
    intro response arrived leads
    unfold Turn.of at leads
    split at leads
    · cases leads
    next found leadsTo =>
      cases leads
      simp only [Request.next?, bind, Option.bind_eq_some_iff] at leadsTo
      obtain ⟨redirected, same, location, _, url, _, moved⟩ := leadsTo
      exact ⟨redirected, url, same, (Option.some.inj moved).symm⟩
  unfold Hop.turn at turn
  split at turn
  next response reply =>
    exact ⟨response.status, by simpa [reply, Reply.status?] using moved _ _ turn⟩
  next response reply =>
    exact ⟨response.status, by simpa [reply, Reply.status?] using moved _ _ turn⟩
  · cases turn
  · cases turn

/-- A redirection repeats what was asked for, or makes an inquiry of it. -/
theorem leads_cases {hop : Hop} {next : Request} (other : hop.request.method ≠ "HEAD")
    (turn : hop.turn = .redirected next) :
    (next.method = hop.request.method ∧ next.body = hop.request.body) ∨
      hop.Yields ∧ next.IsInquiry := by
  obtain ⟨status, redirected, url, replied, same, rfl⟩ := next_of_turn turn
  rcases redirected?_cases other same with rfl | ⟨yields, rfl⟩
  · exact Or.inl ⟨rfl, rfl⟩
  · exact Or.inr ⟨⟨status, _, replied, yields, turn⟩, rfl, rfl⟩

/-- What redirections hand on from one request to the next is true of a whole trail. -/
theorem Trail.keeps {holds : Request → Prop} {request : Request} {hops : List Hop}
    {outcome : Outcome} (trail : Trail request hops outcome)
    (handed : ∀ {hop : Hop} {next : Request}, holds hop.request → hop.turn = .redirected next →
      holds next) (begins : holds request) : ∀ hop ∈ hops, holds hop.request := by
  induction trail with
  | lost request failure =>
    intro hop among
    cases among
  | ended turn | halted turn failure =>
    intro hop only
    cases List.mem_singleton.mp only
    exact begins
  | redirected turn trail ih =>
    intro hop among
    rcases List.mem_cons.mp among with rfl | later
    · exact begins
    · exact ih (handed begins turn) hop later

/-- An inquiry stays one wherever it is redirected to. -/
theorem Request.IsInquiry.next {hop : Hop} {next : Request} (inquiry : hop.request.IsInquiry)
    (turn : hop.turn = .redirected next) : next.IsInquiry := by
  rcases leads_cases (by rw [inquiry.method]; decide) turn with ⟨method, body⟩ | ⟨_, next⟩
  · exact ⟨method.trans inquiry.method, body.trans inquiry.body⟩
  · exact next

theorem Trail.inquiries {request : Request} {hops : List Hop} {outcome : Outcome}
    (trail : Trail request hops outcome) (inquiry : request.IsInquiry) :
    ∀ hop ∈ hops, hop.request.IsInquiry :=
  trail.keeps Request.IsInquiry.next inquiry

/-- A request is made for the last time somewhere on its trail: nothing comes after it, or inquiries
do because that is what the reply asked for. -/
structure Final (method body : String) (hop : Hop) (inquiries : List Hop) : Prop where
  method : hop.request.method = method
  body : hop.request.body = body
  after : ∀ inquiry ∈ inquiries, inquiry.request.IsInquiry
  yields : inquiries ≠ [] → hop.Yields

/-- A request that nothing comes after is made for the last time. -/
theorem final_alone (hop : Hop) : Final hop.request.method hop.request.body hop [] :=
  ⟨rfl, rfl, fun _ among => absurd among List.not_mem_nil, fun filled => absurd rfl filled⟩

theorem Trail.final {request : Request} {hops : List Hop} {outcome : Outcome}
    (trail : Trail request hops outcome) (other : request.method ≠ "HEAD") (filled : hops ≠ []) :
    ∃ earlier hop inquiries, hops = earlier ++ hop :: inquiries ∧
      Final request.method request.body hop inquiries := by
  -- a redirection hands the same request on to the rest of the trail, or it ends here and inquiries
  -- are all that follows
  induction trail with
  | lost request failure => exact absurd rfl filled
  | @ended hop _ turn | @halted hop _ turn failure =>
    exact ⟨[], hop, [], rfl, final_alone hop⟩
  | @redirected hop next rest outcome turn trail ih =>
    by_cases last : rest = []
    · subst last
      exact ⟨[], hop, [], rfl, final_alone hop⟩
    · rcases leads_cases other turn with ⟨method, body⟩ | ⟨yields, inquiry⟩
      · obtain ⟨earlier, final, inquiries, rfl, found⟩ := ih (method ▸ other) last
        exact ⟨hop :: earlier, final, inquiries, rfl, found.method.trans method,
          found.body.trans body, found.after, found.yields⟩
      · exact ⟨[], hop, rest, rfl, rfl, rfl, trail.inquiries inquiry, fun _ => yields⟩

end Http

/-! ### The trail of a call -/

namespace Client

open Http (Hop Outcome Trail)

variable {client : Client} {w : World}

theorem attempt_trail (request : Http.Request) (w : World) :
    ∃ news : Journal, (attempt request w).2.journal = w.journal ++ news ∧
      Trail (authorize request w).1 news.hops (attempt request w).1 := by
  obtain ⟨⟨remarks, grown, silent⟩, _⟩ := authorize_aside request w
  have trail := Http.exchange_trail Http.redirectLimit (authorize request w).2.farEnd
    (authorize request w).1
  unfold attempt
  simp only
  generalize Http.exchange Http.redirectLimit (authorize request w).2.farEnd
    (authorize request w).1 = exchange at trail ⊢
  refine ⟨remarks ++ exchange.hops.map .sent, ?_, ?_⟩
  · simp only [World.append, ← List.append_assoc, ← grown]
  · rw [Journal.hops_append, silent.hops, Journal.hops_sent, List.nil_append]
    exact trail

/-- What comes of a request that is sent again and again comes of the last time it is sent. -/
theorem persist_trail (request : Http.Request) (retries : Nat) (w : World) :
    ∃ (news : Journal) (earlier last : List Hop) (v : World),
      (persist request retries w).2.journal = w.journal ++ news ∧ news.hops = earlier ++ last ∧
        Trail (authorize request v).1 last (persist request retries w).1 := by
  induction retries generalizing w with
  | zero =>
    obtain ⟨news, grown, trail⟩ := attempt_trail request w
    exact ⟨news, [], news.hops, w, grown, rfl, trail⟩
  | succ retries ih =>
    obtain ⟨news, grown, trail⟩ := attempt_trail request w
    rw [persist]
    cases tried : attempt request w with
    | mk outcome v =>
      rw [tried] at grown trail
      simp only
      split
      · obtain ⟨later, earlier, last, u, grown', hops, trail⟩ := ih v
        refine ⟨news ++ later, news.hops ++ earlier, last, u, ?_, ?_, trail⟩
        · rw [grown', grown, List.append_assoc]
        · rw [Journal.hops_append, hops, List.append_assoc]
      · exact ⟨news, [], news.hops, w, grown, rfl, trail⟩

/-- A call is answered at the end of a trail which begins with the request that was asked for. -/
theorem trail_of_answered {α : Type} {decode : ByteArray → Option α} {method path : String}
    {body : Option String} {v : World} {answer : Answer α}
    (called : client.request decode method path body w = (.ok answer, v)) :
    ∃ earlier last request url response, (v.since w).hops = earlier ++ last ∧
      request.method = method ∧ request.body = body.getD "" ∧
      Trail request last (.received url response true) ∧ response.isSuccess = true := by
  cases address : client.urlFor path with
  | error e =>
    simp only [request, address] at called
    cases called
  | ok target =>
    obtain ⟨sent, earlier, last, u, grown, hops, trail⟩ :=
      persist_trail (Http.Request.to method target body) client.maxRetries w
    unfold request deliver at called
    rw [address] at called
    simp only at called
    cases delivered : persist (Http.Request.to method target body) client.maxRetries w with
    | mk outcome t =>
      rw [delivered] at called grown trail
      obtain ⟨guarding, grown', nothing, _⟩ := client.guard_treats outcome t
      obtain ⟨⟨said, grown'', silent⟩, _⟩ :=
        conclude_aside client decode method target outcome (client.guard outcome t)
      have concluded := congrArg Prod.fst called
      obtain ⟨url, response, rfl, success, _⟩ := received_of_conclude concluded
      simp only at called grown grown' grown''
      rw [called] at grown''
      obtain ⟨authorization, same⟩ := authorize_eq (Http.Request.to method target body) u
      -- what becomes of the session, and what is said of the call, make no requests
      have news : v.journal = w.journal ++ (sent ++ (guarding ++ said)) := by
        rw [grown'', grown', grown]
        simp only [List.append_assoc]
      refine ⟨earlier, last, _, url, response, ?_, ?_, ?_, trail, success⟩
      · rw [World.since_eq news, Journal.hops_append, Journal.hops_append, nothing, silent.hops,
          List.append_nil, List.append_nil, hops]
      · rw [same]
        rfl
      · rw [same]
        rfl

end Client

end TeacherRegistry
