import TeacherRegistry.Proofs.FailedOperations
import TeacherRegistry.Proofs.FirstRequests
import TeacherRegistry.Proofs.FormSteps
import TeacherRegistry.Proofs.ValidRecords

/-!
# Submitting twice in a row

A draft that was accepted is gone from the form, so nothing can be sent for it a second time: what is
left there is the empty record, which may not be sent. A draft that was not accepted stays as it was,
and so does everything about the request for it but the credential that goes with it. What the server
says in between, to either submission, makes no difference to this.
-/

namespace TeacherRegistry

/-- What is asked of the server in a request, whoever asks it. -/
def Http.Request.content (request : Http.Request) : String × Url × String :=
  (request.method, request.url, request.body)

theorem Client.content_authorize (request : Http.Request) (w : World) :
    (authorize request w).1.content = request.content := by
  obtain ⟨authorization, same⟩ := authorize_eq request w
  rw [same]
  rfl

/-- The credential of the moment decides nothing about a request but its authorization. -/
theorem Client.content_firstRequest? (client : Client) (method path : String)
    (body : Option String) {v w : World}
    (reachable : v.farEnd.isReachable = w.farEnd.isReachable) :
    (client.firstRequest? method path body v).map Http.Request.content =
      (client.firstRequest? method path body w).map Http.Request.content := by
  unfold firstRequest? Http.Request.reaches
  cases client.urlFor path with
  | error e => rfl
  | ok url =>
    simp only [Except.toOption, Option.bind_some, reachable]
    split
    · simp only [Option.map_some, content_authorize]
    · rfl

namespace Controller

variable {client : Client} {c c' : Controller} {w : World}

/-- The collection and the search term have no part in what is sent. -/
theorem plan_of_form (same : c'.form = c.form) : c'.plan = c.plan := by
  simp only [form, Prod.mk.injEq] at same
  obtain ⟨draft, editing, _⟩ := same
  rw [plan, plan, draft, editing]

/-- The empty form holds no record that may be sent. -/
theorem plan_reset (c : Controller) : c.reset.plan = .error .missingIdNumber := rfl

/-- An accepted draft leaves an empty form behind, whether the list could be read again or not. -/
theorem form_of_submitted {outcome : SaveOutcome}
    (submitted : (submit client c w).result = .ok outcome) :
    (submit client c w).controller.form = c.reset.form := by
  have ends := saving_save client c (w.enter (.submit c.editing))
  rw [submit, controller_within]
  rw [submit, within] at submitted
  generalize save client c (w.enter (.submit c.editing)) = effect at ends submitted ⊢
  cases ends with
  | invalid planned => cases submitted
  | refused planned called => cases submitted
  | @accepted outcome method path answer u v later planned called reloaded =>
    have emptied := form_reload client c.reset
      ((v.log (.draftSaved outcome.label)).notify .success outcome.notice) .reloadFailedAfterSave
    rw [reloaded] at emptied
    exact emptied

/-- The first request of a submission is the same whenever the form is, but for its credentials. -/
theorem content_of_submit {v w : World} {farEnd farEnd' : Http.FarEnd} (same : c'.form = c.form)
    (reachable : farEnd'.isReachable = farEnd.isReachable) :
    ((submit client c' { v with farEnd := farEnd' }).world.since v).requests.head?.map
        Http.Request.content =
      ((submit client c { w with farEnd }).world.since w).requests.head?.map
        Http.Request.content := by
  have planned := head?_requests_of_submit client c { w with farEnd }
  have planned' := head?_requests_of_submit client c' { v with farEnd := farEnd' }
  have draft : c'.draft = c.draft := congrArg Prod.fst same
  rw [plan_of_form same, draft] at planned'
  refine (congrArg _ planned').trans (Eq.trans ?_ (congrArg _ planned).symm)
  cases c.plan with
  | error fault => rfl
  | ok plan => exact client.content_firstRequest? plan.2.1 plan.2.2 (some c.draft.json) reachable

end Controller

namespace Desk

theorem take_submit (desk : Desk) (farEnd : Http.FarEnd) :
    let effect := desk.controller.submit desk.client { desk.world with farEnd }
    desk.take ⟨farEnd, .submit⟩ = ((effect.result.map .saved).mapError .controller,
      ⟨desk.client, effect.controller, effect.world⟩) := rfl

/-- Whatever has happened at a desk, and whatever the server replies to two submissions in a row: if
the first succeeds then the second is refused as one without an identification number and sends
nothing, and if the first fails then the second begins with the same request, or with none if the
first sent none. -/
theorem submit_again (desk : Desk) (replies replies' : List Http.Reply) :
    let first := desk.take ⟨.script replies, .submit⟩
    let second := first.2.take ⟨.script replies', .submit⟩
    let sent := (first.2.world.since desk.world).requests
    let sentAgain := (second.2.world.since first.2.world).requests
    match first.1 with
    | .ok _ => second.1 = .error (.controller (.invalid .missingIdNumber)) ∧ sentAgain = []
    | .error _ =>
      sentAgain.head?.map Http.Request.content = sent.head?.map Http.Request.content := by
  simp only [take_submit]
  cases result : (desk.controller.submit desk.client
      { desk.world with farEnd := .script replies }).result with
  | ok outcome =>
    -- the form is empty by now, and an empty form is never sent
    have planned := (Controller.plan_of_form (Controller.form_of_submitted result)).trans
      (Controller.plan_reset _)
    simp only [Except.map, Except.mapError, Controller.submit_of_fault _ _ planned, true_and]
    rw [Journal.requests_eq, List.map_eq_nil_iff]
    exact (World.silent_notify _ _ _).hops_since
  | error e =>
    have kept := congrArg Controller.form (Controller.unchanged_of_submit result).controller
    simp only [Except.map, Except.mapError]
    exact Controller.content_of_submit kept rfl

end Desk

end TeacherRegistry
