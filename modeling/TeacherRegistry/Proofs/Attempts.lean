import TeacherRegistry.Proofs.CallSequences
import TeacherRegistry.Proofs.Trails

/-!
# The attempts of a call

A call makes its request once or several times, and every attempt leaves a trail. So what is true of
the request as it is sent at any time, and is handed on by redirections, is true of every request
that the call makes.
-/

namespace TeacherRegistry

open Http (Hop)

/-- A request that repeats what was asked for, or an inquiry that was made of it. -/
def Http.Request.Repeats (method body : String) (request : Http.Request) : Prop :=
  (request.method = method ∧ request.body = body) ∨ request.IsInquiry

theorem Http.Request.Repeats.next {method body : String} {hop : Hop} {next : Http.Request}
    (repeats : hop.request.Repeats method body) (other : method ≠ "HEAD")
    (turn : hop.turn = .redirected next) : next.Repeats method body := by
  rcases repeats with ⟨same, sameBody⟩ | inquiry
  · rcases Http.leads_cases (same ▸ other) turn with ⟨again, againBody⟩ | ⟨_, inquiry⟩
    · exact Or.inl ⟨again.trans same, againBody.trans sameBody⟩
    · exact Or.inr inquiry
  · exact Or.inr (inquiry.next turn)

namespace Client

variable {holds : Http.Request → Prop} {request : Http.Request}

theorem persist_keeps
    (handed : ∀ {hop : Hop} {next : Http.Request}, holds hop.request →
      hop.turn = .redirected next → holds next)
    (begins : ∀ v, holds (authorize request v).1) (retries : Nat) (w : World) :
    ∃ news : Journal, (persist request retries w).2.journal = w.journal ++ news ∧
      ∀ hop ∈ news.hops, holds hop.request := by
  induction retries generalizing w with
  | zero =>
    obtain ⟨news, grown, trail⟩ := attempt_trail request w
    exact ⟨news, grown, trail.keeps handed (begins w)⟩
  | succ retries ih =>
    obtain ⟨news, grown, trail⟩ := attempt_trail request w
    have first := trail.keeps handed (begins w)
    rw [persist]
    cases tried : attempt request w with
    | mk outcome v =>
      rw [tried] at grown
      simp only
      split
      · -- the next attempt is authorized anew, by the token of that moment
        obtain ⟨later, grown', others⟩ := ih v
        refine ⟨news ++ later, by rw [grown', grown, List.append_assoc], ?_⟩
        intro hop among
        rw [Journal.hops_append] at among
        rcases List.mem_append.mp among with early | late
        · exact first hop early
        · exact others hop late
      · exact ⟨news, grown, first⟩

end Client

namespace Call

variable {α : Type} {client : Client} {decode : ByteArray → Option α} {method path : String}
  {body : Option String} {w : World}

theorem hops_of_unaddressed {e : TransportError} (nowhere : client.urlFor path = .error e) :
    (Call.of client decode method path body w).news.hops = [] := by
  have called : client.request decode method path body w = (.error e, w) := by
    rw [Client.request, nowhere]
  rw [Call.news_of called, (World.Silent.refl w).hops_since]

/-- A call makes no request that the attempts do not make. -/
theorem keeps {holds : Http.Request → Prop}
    (handed : ∀ {hop : Hop} {next : Http.Request}, holds hop.request →
      hop.turn = .redirected next → holds next)
    (begins : ∀ url v, client.urlFor path = .ok url →
      holds (Client.authorize (Http.Request.to method url body) v).1) :
    ∀ hop ∈ (Call.of client decode method path body w).news.hops, holds hop.request := by
  cases address : client.urlFor path with
  | error e =>
    intro hop among
    rw [hops_of_unaddressed address] at among
    cases among
  | ok url =>
    obtain ⟨sent, grown, each⟩ :=
      Client.persist_keeps handed (fun v => begins url v address) client.maxRetries w
    rw [Call.news, Call.of]
    unfold Client.request Client.deliver
    rw [address]
    simp only
    cases delivered : Client.persist (Http.Request.to method url body) client.maxRetries w with
    | mk outcome v =>
      rw [delivered] at grown
      simp only at grown ⊢
      obtain ⟨guarding, grown', nothing, _⟩ := client.guard_treats outcome v
      obtain ⟨⟨said, grown'', silent⟩, _⟩ :=
        client.conclude_aside decode method url outcome (client.guard outcome v)
      -- what becomes of the session, and what is said of the call, make no requests
      have news := grown''
      rw [grown', grown, List.append_assoc, List.append_assoc] at news
      rw [World.since_eq news, Journal.hops_append, Journal.hops_append, nothing, silent.hops,
        List.append_nil, List.append_nil]
      exact each

theorem repeats (other : method ≠ "HEAD") :
    ∀ hop ∈ (Call.of client decode method path body w).news.hops,
      hop.request.Repeats method (body.getD "") := by
  refine keeps (fun repeats turn => repeats.next other turn) ?_
  intro url v _
  obtain ⟨authorization, same⟩ := Client.authorize_eq (Http.Request.to method url body) v
  rw [same]
  exact Or.inl ⟨rfl, rfl⟩

end Call

end TeacherRegistry
