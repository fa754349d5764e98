import TeacherRegistry.Proofs.Courses

/-!
# A session is given up when the server refuses it, and only then

In a world whose session is guarded every call of a run looks at its very last reply. One that refuses
the session takes the token and the profile out of the store and sends the operator to log in once; no
other reply, and no missing one, touches the store.
-/

namespace TeacherRegistry

open Http (finalStatus?)
open TransportError (unauthorized)

/-- What a call does to a session, if whoever is refused is sent to log in. -/
structure Call.Evicts (client : Client) (call : Call) : Prop where
  token : finalStatus? call.news.hops = some unauthorized →
    call.after.store.get? Store.tokenKey = .ok none
  user : finalStatus? call.news.hops = some unauthorized →
    call.after.store.get? Store.userKey = .ok none
  others : finalStatus? call.news.hops = some unauthorized →
    ∀ entries, call.before.store.entries = .ok entries →
      ∀ key, key ≠ Store.tokenKey → key ≠ Store.userKey →
        call.after.store.get? key = call.before.store.get? key
  redirected : finalStatus? call.news.hops = some unauthorized →
    call.after.journal.redirects = call.before.journal.redirects ++ [client.loginRoute]
  store : finalStatus? call.news.hops ≠ some unauthorized → call.after.store = call.before.store
  redirects : finalStatus? call.news.hops ≠ some unauthorized →
    call.after.journal.redirects = call.before.journal.redirects

variable {client : Client} {u w : World}

private theorem treats_of_no_address {status? : Option Nat} (guarded : w.Guarded)
    (other : status? ≠ some unauthorized) : client.Treats status? w w [] :=
  ⟨guarded, rfl, fun same => absurd same other, fun same => absurd same other, fun _ => ⟨rfl, rfl⟩⟩

theorem Client.request_treats {α : Type} (client : Client) (decode : ByteArray → Option α)
    (method path : String) (body : Option String) (guarded : w.Guarded) :
    ∃ news : Journal, (client.request decode method path body w).2.journal = w.journal ++ news ∧
      client.Treats (finalStatus? news.hops) w (client.request decode method path body w).2 news := by
  cases address : client.urlFor path with
  | error e =>
    -- a path that makes no address: nothing is sent, so no reply refuses anything
    have nothing : (client.request decode method path body w).2 = w := by rw [request, address]
    have silent : finalStatus? (Journal.hops []) ≠ some unauthorized := by
      intro same
      cases same
    rw [nothing]
    exact ⟨[], (List.append_nil _).symm, treats_of_no_address guarded silent⟩
  | ok url =>
    obtain ⟨news, proceeds⟩ := client.request_proceeds decode method body w address
    exact ⟨news, proceeds.grown, proceeds.treats guarded⟩

theorem evicts_of_treats {call : Call} {news : Journal}
    (redirected : call.before.expiry = .redirected)
    (grown : call.after.journal = call.before.journal ++ news)
    (treats : client.Treats (finalStatus? news.hops) call.before call.after news) :
    call.Evicts client := by
  -- what the call has added can be told from the two worlds
  have same : call.news = news := World.since_eq grown
  have told : call.after.journal.redirects =
      call.before.journal.redirects ++ Journal.redirects news := by
    rw [grown, Journal.redirects_append]
  rw [← same] at treats told
  constructor
  · intro refusal
    exact (Store.get?_of_given_up (treats.refusal refusal)).1
  · intro refusal
    exact (Store.get?_of_given_up (treats.refusal refusal)).2.1
  · intro refusal entries readable key notToken notUser
    rw [(Store.get?_of_given_up (treats.refusal refusal)).2.2 key notToken notUser,
      Store.get?_of_entries readable, Store.contents_of_entries readable]
  · intro refusal
    rw [told, treats.expired refusal redirected]
  · intro other
    exact (treats.otherwise other).1
  · intro other
    rw [told, (treats.otherwise other).2, List.append_nil]

/-- The session stays guarded all along a course, so every call of it goes by the rule. -/
theorem Course.evicts {calls : List Call} (course : Course client u calls w) (guarded : u.Guarded)
    (redirected : u.expiry = .redirected) : ∀ call ∈ calls, call.Evicts client := by
  -- a guarded world stays so even when its file is corrupt, since it can still be written
  induction course with
  | rest w =>
    intro call member
    cases member
  | aside aside _ ih => exact ih (aside.guarded guarded) (aside.expiry.trans redirected)
  | call decode method path body _ ih =>
    obtain ⟨news, grown, treats⟩ := client.request_treats decode method path body guarded
    intro call member
    rcases List.mem_cons.mp member with rfl | later
    · exact evicts_of_treats redirected grown treats
    · exact ih treats.guarded (treats.expiry.trans redirected) call later

/-- However a run at a desk with a guarded session is taken apart into calls, all its requests are
those of the calls, and each call gives the session up if its very last reply refuses it, and only
then. -/
theorem Desk.evicts_exactly_on_refusal (desk : Desk) (steps : List Desk.Step)
    (stored : desk.world.credentials = .stored) (redirected : desk.world.expiry = .redirected)
    (serves : desk.world.store.Serves) :
    (∃ calls, Course desk.client desk.world calls (desk.run steps).world) ∧
      ∀ calls, Course desk.client desk.world calls (desk.run steps).world →
        ((desk.run steps).world.since desk.world).hops = calls.flatMap (fun call => call.news.hops) ∧
          ∀ call ∈ calls, call.Evicts desk.client := by
  refine ⟨desk.leads_run steps, ?_⟩
  intro calls course
  obtain ⟨news, grown, hops, _⟩ := course.grows
  refine ⟨?_, course.evicts ⟨stored, serves⟩ redirected⟩
  rw [World.since_eq grown, hops]

/-- A desk whose session file cannot be understood. -/
def Desk.corrupt : Desk :=
  .initial ⟨"http://127.0.0.1:8081/api", 10000, "/login", 1⟩
    { farEnd := .unreachable
      store := .file "session.json" (Disk.sessionDisk "\x7b\"token\":".toUTF8)
      credentials := .stored
      confirmation := .always true
      expiry := .redirected
      spans := []
      journal := [] }

/-- The second try is refused, and its body is cut off. -/
def Desk.refusedLoad : Desk.Step :=
  ⟨.script [.answer ⟨503, [], .empty⟩, .cut ⟨401, [], .empty⟩], .load⟩

theorem Desk.evicts_exactly_on_refusal_corrupt :
    finalStatus? ((Desk.corrupt.run [Desk.refusedLoad]).world.since Desk.corrupt.world).hops =
        some unauthorized ∧
      ∃ calls, Course Desk.corrupt.client Desk.corrupt.world calls
          (Desk.corrupt.run [Desk.refusedLoad]).world ∧
        ∀ call ∈ calls, call.Evicts Desk.corrupt.client := by
  obtain ⟨⟨calls, course⟩, law⟩ := Desk.corrupt.evicts_exactly_on_refusal [Desk.refusedLoad] rfl rfl
    (Disk.serves_sessionDisk _)
  exact ⟨by rfl, calls, course, (law calls course).2⟩

end TeacherRegistry
