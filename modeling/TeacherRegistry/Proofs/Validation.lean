import TeacherRegistry.Proofs.CallOutcomes
import TeacherRegistry.Proofs.Eviction
import TeacherRegistry.Proofs.GivenTokens
import TeacherRegistry.Proofs.Operations

/-!
# Asking whether the session still holds

The answer goes by the status of the final response. A refusal is a no, and by then the session is
gone from the store. A success is a yes, provided that nothing stands in its body that passes for
JSON and is none. Everything else is a failure, and leaves the store alone.
-/

namespace TeacherRegistry

open Http (Response finalResponse?)
open Json (Value)
open TransportError (unauthorized)

/-- Nothing in a response passes for JSON and is none. -/
def Http.Response.IsLegible (response : Response) : Prop :=
  response.HoldsNoJson ∨ ∃ data, Value.ofBytes? response.body = some data

/-- The call whose final response is a success gives an answer if that response can be read. -/
theorem Client.Verdict.answered_iff {url? : Option Url} {response : Response}
    {result : Except TransportError (Answer Value)}
    (verdict : Client.Verdict Value.ofBytes? url? (some response) result) :
    (∃ answer, result = .ok answer) ↔ response.isSuccess = true ∧ response.IsLegible := by
  cases verdict with
  | sessionRefused status =>
    have failure : response.isSuccess = false := by rw [Response.isSuccess, status]; rfl
    simp [failure]
  | refused failure => simp [failure]
  | empty success nothing => simp [success, Response.IsLegible, nothing]
  | read success json holds => simp [success, Response.IsLegible, holds]
  | unread success json fails => simp [Response.IsLegible, json, fails]

namespace Session

/-- What is said of a session when its validation has this final response, and what becomes of the
store. -/
structure Judged (response : Response) (before after : Store) (said : Except Error Bool) :
    Prop where
  valid : said = .ok true ↔ response.isSuccess = true ∧ response.IsLegible
  refused : said = .ok false ↔ response.status = unauthorized
  failed : (∃ e, said = .error e) ↔
    response.status ≠ unauthorized ∧ ¬ (response.isSuccess = true ∧ response.IsLegible)
  token : response.status = unauthorized → after.get? Store.tokenKey = .ok none
  user : response.status = unauthorized → after.get? Store.userKey = .ok none
  kept : response.status ≠ unauthorized → after = before

section Verdict

variable (result : Except TransportError (Answer Value))

theorem verdict_eq_true_iff : verdict result = .ok true ↔ ∃ answer, result = .ok answer := by
  unfold verdict
  split <;> simp

theorem verdict_eq_false_iff :
    verdict result = .ok false ↔ ∃ message, result = .error (.authentication message) := by
  unfold verdict
  split <;> simp_all

theorem verdict_failed_iff :
    (∃ e, verdict result = .error e) ↔ verdict result ≠ .ok false ∧ verdict result ≠ .ok true := by
  unfold verdict
  split <;> simp

end Verdict

/-- With a stored credential the final response of a validation decides what is said and what is
stored. -/
theorem validate_judges (client : Client) (w : World) (stored : w.credentials = .stored)
    (serves : w.store.Serves) {response : Response}
    (final : finalResponse? ((validate client w).2.since w).hops = some response) :
    Judged response w.store (validate client w).2.store (validate client w).1 := by
  have guarded : (w.enter .validate).Guarded := ⟨stored, serves⟩
  obtain ⟨news, grown, treats⟩ :=
    client.request_treats Value.ofBytes? "GET" validatePath none guarded
  have verdict : Client.Verdict Value.ofBytes? _ _ _ :=
    client.verdict_request Value.ofBytes? "GET" validatePath none (w.enter .validate)
  have added : (validate client w).2.since w = news := by
    apply World.since_eq
    rw [journal_validate, grown]
    rfl
  rw [added] at final
  rw [World.since_eq grown, final] at verdict
  have status := Http.finalStatus?_of_finalResponse final
  rw [validate_eq]
  generalize client.request Value.ofBytes? "GET" validatePath none (w.enter .validate) = called
    at verdict treats
  have valid := (verdict_eq_true_iff called.1).trans verdict.answered_iff
  have refused : Session.verdict called.1 = .ok false ↔ response.status = unauthorized := by
    rw [verdict_eq_false_iff, verdict.authentication_iff]
    simp
  have refusal : response.status = unauthorized →
      called.2.store.entries = .ok ((w.store.contents.erase Store.tokenKey).erase Store.userKey) :=
    fun same => treats.refusal (by rw [status, same])
  refine ⟨valid, refused, ?_, ?_, ?_, ?_⟩
  · rw [verdict_failed_iff, Ne, Ne, valid, refused]
  · exact fun same => (Store.get?_of_given_up (refusal same)).1
  · exact fun same => (Store.get?_of_given_up (refusal same)).2.1
  · intro other
    exact (treats.otherwise (by rw [status]; simpa using other)).1

/-- A session file, and a server with one reply to the validation. -/
def asking (reply : Http.Reply) : World :=
  { farEnd := .script [reply]
    store := .file "session.json"
      (Disk.sessionDisk "\x7b\"token\":\"t\",\"user\":\"u\"\x7d".toUTF8)
    credentials := .stored
    confirmation := .always true
    expiry := .redirected
    spans := []
    journal := [] }

/-- The server knows the token no more. -/
def revoked : World := asking (.answer ⟨401, [], "\x7b\x7d".toUTF8⟩)

theorem validate_judges_revoked :
    (validate Desk.sample.client revoked).1 = .ok false ∧
      (validate Desk.sample.client revoked).2.store.get? Store.tokenKey = .ok none ∧
      (validate Desk.sample.client revoked).2.store.get? Store.userKey = .ok none := by
  have answered : (finalResponse? ((validate Desk.sample.client revoked).2.since revoked).hops).map
      Response.status = some unauthorized := by
    decide +kernel
  obtain ⟨response, final, status⟩ := Option.map_eq_some_iff.mp answered
  have judged :=
    validate_judges Desk.sample.client revoked rfl (Disk.serves_sessionDisk _) final
  exact ⟨judged.refused.mpr status, judged.token status, judged.user status⟩

/-- A success in plain words that does not say so is taken for JSON, and so it is a failure. -/
theorem worded_success_fails : ¬ ∀ (client : Client) (w : World), w.credentials = .stored →
    w.store.Serves → ∀ response,
      finalResponse? ((validate client w).2.since w).hops = some response →
      response.isSuccess = true → (validate client w).1 = .ok true := by
  intro law
  have valid := law Desk.sample.client (asking (.answer ⟨200, [], "Token valido".toUTF8⟩)) rfl
    (Disk.serves_sessionDisk _) ⟨200, [], "Token valido".toUTF8⟩ rfl rfl
  have failed : (validate Desk.sample.client
      (asking (.answer ⟨200, [], "Token valido".toUTF8⟩))).1.toOption = none := by
    decide +kernel
  rw [valid] at failed
  cases failed

end Session

end TeacherRegistry
