import TeacherRegistry.Proofs.Operations
import TeacherRegistry.Proofs.Trails

/-!
# What is reported as done

A change is reported as done if the last reply to its call grants what was requested last. Most
often that is the change itself. But a redirection may have made an inquiry of it; then it is the
inquiry that was granted, and nothing tells whether the server has taken up the change.
-/

namespace TeacherRegistry

open Json (Value)

namespace Http

/-- Whether the reply to a request tells of success. -/
def Hop.isGranted (hop : Hop) : Bool :=
  hop.reply.status?.any fun status => 200 ≤ status && status < 300

/-- What the replies to a change have to be for it to be reported as done: the last request for it
was granted, or it was redirected to inquiries, the last of which was granted. -/
inductive Accepted (method body : String) : List Hop → Prop where
  | granted (earlier : List Hop) {hop : Hop} (made : hop.request.method = method)
    (carried : hop.request.body = body) (granted : hop.isGranted = true) :
    Accepted method body (earlier ++ [hop])
  | redirected (earlier inquiries : List Hop) {hop last : Hop} (made : hop.request.method = method)
    (carried : hop.request.body = body) (yields : hop.Yields)
    (after : ∀ inquiry ∈ inquiries ++ [last], inquiry.request.IsInquiry)
    (granted : last.isGranted = true) :
    Accepted method body (earlier ++ hop :: (inquiries ++ [last]))

theorem isGranted_of_received {hop : Hop} {url : Url} {response : Response} {complete : Bool}
    (turn : hop.turn = .ended (.received url response complete))
    (success : response.isSuccess = true) : hop.isGranted = true := by
  rw [Hop.isGranted, status_of_received turn, Option.any_some]
  exact success

/-- A trail that ends in success is that of an accepted request. -/
theorem Trail.accepted {request : Request} {hops : List Hop} {url : Url} {response : Response}
    (trail : Trail request hops (.received url response true)) (success : response.isSuccess = true)
    (other : request.method ≠ "HEAD") (earlier : List Hop) :
    Accepted request.method request.body (earlier ++ hops) := by
  obtain ⟨last, isLast, turn⟩ := trail.last
  have granted := isGranted_of_received turn success
  have filled : hops ≠ [] := by
    rintro rfl
    cases isLast
  obtain ⟨before, hop, inquiries, rfl, final⟩ := trail.final other filled
  rw [← List.append_assoc]
  -- what the last reply grants is the request that was made for the last time, or an inquiry
  rcases List.eq_nil_or_concat inquiries with rfl | ⟨others, final', rfl⟩
  · rw [List.getLast?_append, List.getLast?_singleton, Option.some_or] at isLast
    cases isLast
    exact .granted _ final.method final.body granted
  · rw [List.concat_eq_append] at *
    simp only [List.getLast?_append, List.getLast?_cons, Option.some_or, Option.getD_some] at isLast
    cases isLast
    exact .redirected _ others final.method final.body (final.yields (by simp)) final.after granted

end Http

open Http (Accepted)

theorem Client.accepted_of_answered {α : Type} {client : Client}
    {decode : ByteArray → Option α} {method path : String} {body : Option String} {w v : World}
    {answer : Answer α} (other : method ≠ "HEAD")
    (called : client.request decode method path body w = (.ok answer, v)) :
    Accepted method (body.getD "") (v.since w).hops := by
  obtain ⟨earlier, last, request, url, response, hops, rfl, same, trail, success⟩ :=
    trail_of_answered called
  rw [hops, ← same]
  exact trail.accepted success other earlier

namespace Controller

/-- The method that a draft is sent with. -/
def SaveOutcome.method : SaveOutcome → String
  | .created => "POST"
  | .updated => "PUT"

theorem method_of_plan {c : Controller} {outcome : SaveOutcome} {method path : String}
    (planned : c.plan = .ok (outcome, method, path)) : method = outcome.method := by
  unfold plan at planned
  split at planned <;> cases planned <;> rfl

variable {client : Client} {c : Controller} {w : World}

/-- An operation began with this call, and the call was accepted. -/
def BeganAccepted (call? : Option Call) (news : Journal) (method body : String) : Prop :=
  ∃ call, call? = some call ∧ call.news.hops <+: news.hops ∧ Accepted method body call.news.hops

theorem accepted_of_save {outcome : SaveOutcome} (saved : (save client c w).result = .ok outcome) :
    BeganAccepted (savingCall? client c w) ((save client c w).world.since w) outcome.method
      c.draft.json := by
  have ends := saving_save client c w
  generalize save client c w = effect at ends saved
  cases ends with
  | invalid planned => cases saved
  | refused planned called => cases saved
  | @accepted outcome method path answer u v later planned called reloaded =>
    cases saved
    obtain rfl := method_of_plan planned
    have other : outcome.method ≠ "HEAD" := by cases outcome <;> decide
    refine ⟨.of client Value.ofBytes? outcome.method path (some c.draft.json) w, ?_, ?_, ?_⟩
    · rw [savingCall?, planned]
      rfl
    · rw [Call.news_of called, World.since_trans (client.precedes_of_request called)
        (precedes_of_reload reloaded), Journal.hops_append]
      exact List.prefix_append _ _
    · rw [Call.news_of called]
      exact Client.accepted_of_answered other called

theorem accepted_of_erase {id : TeacherId}
    (deleted : (eraseIfConfirmed client c id w).result = .ok .deleted) :
    BeganAccepted (erasingCall? client id w) ((eraseIfConfirmed client c id w).world.since w)
      "DELETE" "" := by
  have ends := erasing_erase client c w id
  generalize eraseIfConfirmed client c id w = effect at ends deleted
  cases ends with
  | declined asked => cases deleted
  | refused asked called => cases deleted
  | @accepted answer t u v later asked called reloaded =>
    -- the question comes before the call, but it makes no requests
    have silent := w.silent_ask deleteQuestion
    rw [asked] at silent
    have call := client.precedes_of_request called
    have after := precedes_of_reload reloaded
    refine ⟨.of client Value.ofBytes? "DELETE" (itemPath id) none v, ?_, ?_, ?_⟩
    · rw [erasingCall?, asked]
    · rw [Call.news_of called, World.since_trans silent.precedes (call.trans after),
        World.since_trans call after, Journal.hops_append, Journal.hops_append, silent.hops_since]
      exact List.prefix_append _ _
    · rw [Call.news_of called]
      exact Client.accepted_of_answered (by decide) called

end Controller

namespace Desk

open Controller (BeganAccepted)

variable {desk : Desk} {action : Action}

theorem accepted_of_saved {outcome : Controller.SaveOutcome}
    (saved : (desk.act action).1 = .ok (.saved outcome)) :
    BeganAccepted (desk.opening? action) ((desk.act action).2.world.since desk.world)
      outcome.method desk.controller.draft.json := by
  cases reported_act saved with
  | saved result => exact Controller.accepted_of_save result
  | other unrelated => cases unrelated

theorem accepted_of_deleted (deleted : (desk.act action).1 = .ok (.deleted .deleted)) :
    BeganAccepted (desk.opening? action) ((desk.act action).2.world.since desk.world) "DELETE" "" := by
  cases reported_act deleted with
  | deleted result => exact Controller.accepted_of_erase result
  | other unrelated => cases unrelated

/-- A draft is reported as saved, and a record as deleted, only after the call that the operation
began with has been accepted: the last request for the change was itself granted, or the server
redirected it to inquiries, as 303 does and as 301 and 302 do to a POST, and granted the last of
those. -/
theorem done_only_if_accepted (desk : Desk) (step : Step) :
    let before := { desk with world := { desk.world with farEnd := step.farEnd } }
    let news := (desk.take step).2.world.since desk.world
    (∀ outcome, (desk.take step).1 = .ok (.saved outcome) →
      BeganAccepted (before.opening? step.action) news outcome.method desk.controller.draft.json) ∧
      ((desk.take step).1 = .ok (.deleted .deleted) →
        BeganAccepted (before.opening? step.action) news "DELETE" "") := by
  intro before news
  exact ⟨fun outcome saved => accepted_of_saved saved, accepted_of_deleted⟩

/-! ### A draft that was never taken up -/

/-- What a submission did, if it did anything. -/
def savedAs? : Except Failure Report → Option Controller.SaveOutcome
  | .ok (.saved outcome) => some outcome
  | _ => none

theorem eq_of_savedAs? {result : Except Failure Report} {outcome : Controller.SaveOutcome}
    (saved : savedAs? result = some outcome) : result = .ok (.saved outcome) := by
  unfold savedAs? at saved
  split at saved
  · cases saved
    rfl
  · cases saved

/-- A desk with a new record in the form. -/
def filledIn : Desk :=
  { sample with controller.draft := ⟨none, "12345678", "Ana", "ana@x.com", "Math"⟩ }

/-- A submission that the server redirects to a page of its own. -/
def detour : Step :=
  ⟨.script [.answer ⟨302, [("location", "/")], .empty⟩, .answer ⟨204, [], .empty⟩], .submit⟩

/-- That page is granted, the draft is not, and still the draft is reported as saved. -/
theorem done_without_grant :
    ¬ ∀ (desk : Desk) (step : Step),
      let news := (desk.take step).2.world.since desk.world
      (∀ outcome, (desk.take step).1 = .ok (.saved outcome) →
        ∃ hop ∈ news.hops, hop.request.method = outcome.method ∧
          hop.request.body = desk.controller.draft.json ∧ hop.isGranted = true) ∧
        ((desk.take step).1 = .ok (.deleted .deleted) →
          ∃ hop ∈ news.hops, hop.request.method = "DELETE" ∧ hop.isGranted = true) := by
  intro always
  have saved : savedAs? (filledIn.take detour).1 = some .created := by decide +kernel
  have refused : ∀ hop ∈ ((filledIn.take detour).2.world.since filledIn.world).hops,
      hop.request.method = "POST" → hop.isGranted = false := by decide +kernel
  obtain ⟨hop, among, method, _, granted⟩ :=
    (always filledIn detour).1 .created (eq_of_savedAs? saved)
  rw [refused hop among method] at granted
  cases granted

end Desk

end TeacherRegistry
