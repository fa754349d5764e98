import TeacherRegistry.Proofs.ChangeTraces
import TeacherRegistry.Proofs.ValidRecords

/-!
# Nothing is deleted unasked

A deletion begins with a question to the operator, and a no is the end of it. No other operation of
the controller asks anything, and none makes a request to delete, since a redirection repeats what
was requested or makes an inquiry of it. So where no request is made twice, there are at most as
many requests to delete as there are questions that were answered with yes.
-/

namespace TeacherRegistry

open Json (Value)
open Http (Hop)
open Controller (deleteQuestion itemPath listPath)

namespace World

variable {u v w : World}

/-- From one world to another nothing was asked. -/
structure Unasked (w v : World) : Prop where
  precedes : w.Precedes v
  nothing : (v.since w).questions = []

theorem Unasked.trans (first : u.Unasked v) (second : v.Unasked w) : u.Unasked w := by
  refine ⟨first.precedes.trans second.precedes, ?_⟩
  rw [since_trans first.precedes second.precedes, Journal.questions_append, first.nothing,
    second.nothing, List.append_nil]

theorem Spends.unasked (spends : w.Spends v) : w.Unasked v :=
  let ⟨news, grown, _⟩ := spends
  ⟨⟨news, grown⟩, spends.questions_since⟩

theorem Unasked.refl (w : World) : w.Unasked w := (Spends.refl w).unasked

theorem Unasked.log (unasked : w.Unasked v) (event : Log.Event) : w.Unasked (v.log event) :=
  unasked.trans ((Spends.refl v).log event).unasked

theorem Unasked.notify (unasked : w.Unasked v) (tone : Tone) (text : String) :
    w.Unasked (v.notify tone text) := by
  refine unasked.trans ⟨⟨_, rfl⟩, ?_⟩
  rw [since_eq (show (v.notify tone text).journal = v.journal ++ [.notice tone text] from rfl)]
  rfl

end World

namespace Controller

open World (Unasked)

variable (client : Client) (c : Controller) (w : World)

/-! ### What is asked -/

theorem unasked_within {α : Type} {span : Log.Span} {act : World → Effect α} {w : World}
    (inside : (w.enter span).Unasked (act (w.enter span)).world) :
    w.Unasked (within span act w).world :=
  ⟨inside.precedes, inside.nothing⟩

private theorem unasked_refresh : w.Unasked (refresh client c w).world := by
  have ends := refreshing_refresh client c w
  generalize refresh client c w = effect at ends
  cases ends with
  | failed fetched =>
    obtain ⟨answer, called⟩ := request_of_fetch fetched
    exact (Client.spends_of_request called).unasked.notify .failure _
  | done fetched =>
    obtain ⟨answer, called⟩ := request_of_fetch fetched
    exact (Client.spends_of_request called).unasked.log _

theorem unasked_load : w.Unasked (load client c w).world :=
  unasked_within (unasked_refresh client c (w.enter .load))

theorem unasked_reload (failed : Log.Event) : w.Unasked (reload client failed c w).2 := by
  have loaded := unasked_load client c w
  unfold reload
  split
  next outcome =>
    rw [outcome] at loaded
    exact loaded
  next outcome =>
    rw [outcome] at loaded
    exact loaded.log failed

private theorem unasked_of_reloaded {client : Client} {c later : Controller} {u v : World}
    {event failed : Log.Event} {text : String}
    (reloaded : reload client failed c ((v.log event).notify .success text) = (later, u)) :
    v.Unasked u := by
  have unasked := unasked_reload client c ((v.log event).notify .success text) failed
  rw [reloaded] at unasked
  exact (((Unasked.refl v).log event).notify .success text).trans unasked

private theorem unasked_save : w.Unasked (save client c w).world := by
  have ends := saving_save client c w
  generalize save client c w = effect at ends
  cases ends with
  | invalid planned => exact (Unasked.refl w).notify .failure _
  | refused planned called => exact (Client.spends_of_request called).unasked.notify .failure _
  | accepted planned called reloaded =>
    exact (Client.spends_of_request called).unasked.trans (unasked_of_reloaded reloaded)

theorem unasked_submit : w.Unasked (submit client c w).world :=
  unasked_within (unasked_save client c (w.enter _))

theorem unasked_beginEditById (id : TeacherId) : w.Unasked (c.beginEditById id w).world := by
  unfold beginEditById
  split
  · exact (Unasked.refl w).log _
  · exact .refl w

/-! ### What a deletion sends -/

/-- What is sent for a deletion that the operator agrees to: the request to delete, and perhaps one
for the list, if the record can be requested. -/
def SendsDeletion (client : Client) (id : TeacherId) (farEnd : Http.FarEnd) (hops : List Hop) :
    Prop :=
  (client.Reaches (itemPath id) farEnd ∧
    ∃ deletion inquiries, hops = deletion :: inquiries ∧
      deletion.request.Asks client "DELETE" (itemPath id) none ∧ inquiries.length ≤ 1 ∧
        ∀ inquiry ∈ inquiries, inquiry.request.Asks client "GET" listPath none) ∨
  (¬ client.Reaches (itemPath id) farEnd ∧ hops = [])

/-- What happens in a deletion after the question. -/
structure AfterQuestion (client : Client) (id : TeacherId) (farEnd : Http.FarEnd) (answer : Bool)
    (rest : Journal) : Prop where
  questions : rest.questions = []
  no : answer = false → rest.hops = []
  yes : answer = true → client.maxRetries = 0 → farEnd.IsDirect →
    SendsDeletion client id farEnd rest.hops

private theorem hops_since_notifyFailure {u v : World} (precedes : u.Precedes v)
    (failure reason : String) :
    ((notifyFailure v failure reason).since u).hops = (v.since u).hops := by
  have told := World.silent_notify v .failure (failure ++ ": " ++ reason)
  rw [notifyFailure, World.since_trans precedes told.precedes, Journal.hops_append, told.hops_since,
    List.append_nil]

/-- A deletion asks before anything else happens. -/
theorem asks_erase (id : TeacherId) :
    ∃ rest, (eraseIfConfirmed client c id w).world.since w =
        .asked deleteQuestion (w.ask deleteQuestion).1 :: rest ∧
      AfterQuestion client id w.farEnd (w.ask deleteQuestion).1 rest := by
  have ends := erasing_erase client c w id
  generalize eraseIfConfirmed client c id w = effect at ends
  have grown := w.journal_ask deleteQuestion
  have same := w.farEnd_ask deleteQuestion
  have begins : ∀ {v u : World} {answer : Bool}, w.ask deleteQuestion = (answer, v) →
      v.Unasked u → u.since w = .asked deleteQuestion answer :: u.since v := by
    intro v u answer asked unasked
    rw [asked] at grown
    rw [World.since_trans ⟨_, grown⟩ unasked.precedes, World.since_eq grown]
    rfl
  cases ends with
  | @declined v asked =>
    -- nothing is done after a no but to report it
    have unasked := (Unasked.refl v).log .deleteDeclined
    rw [asked]
    refine ⟨_, begins asked unasked, unasked.nothing, ?_, nofun⟩
    exact fun _ => (World.silent_log v .deleteDeclined).hops_since
  | @refused e u v asked called =>
    have unasked := (Client.spends_of_request called).unasked.notify .failure
      (deleteFailure ++ ": " ++ e.message)
    rw [asked] at same ⊢
    refine ⟨_, begins asked unasked, unasked.nothing, nofun, fun _ once direct => ?_⟩
    -- the request was not accepted, so the list is not read again
    rw [hops_since_notifyFailure (client.precedes_of_request called)]
    rcases Client.hops_of_direct (same ▸ direct) once called with
      ⟨reaches, hop, hops, asks⟩ | ⟨lost, none⟩
    · rw [← same]
      exact Or.inl ⟨reaches, hop, [], hops, asks, Nat.zero_le 1, List.forall_mem_nil _⟩
    · rw [← same]
      exact Or.inr ⟨lost, none⟩
  | @accepted answer t u v later asked called reloaded =>
    have unasked := (Client.spends_of_request called).unasked.trans (unasked_of_reloaded reloaded)
    rw [asked] at same ⊢
    refine ⟨_, begins asked unasked, unasked.nothing, nofun, fun _ once direct => ?_⟩
    obtain ⟨deletion, inquiry, hops, asks, asks', _⟩ :=
      traces_of_change (same ▸ direct) once (Or.inr ⟨id, rfl⟩) called reloaded
    rcases Client.hops_of_direct (same ▸ direct) once called with ⟨reaches, _⟩ | ⟨_, none⟩
    · rw [← same]
      exact Or.inl ⟨reaches, deletion, [inquiry], hops, asks, Nat.le_refl 1, by simpa using asks'⟩
    · -- what was answered was sent
      refine absurd ?_ (Client.requests_of_answered called)
      rw [Journal.requests_eq, none, List.map_nil]

end Controller

/-! ### Counting -/

/-- How many requests ask to delete something. -/
def Journal.deletions (journal : Journal) : Nat :=
  journal.requests.countP fun request => request.method == "DELETE"

/-- How many questions were answered with yes. -/
def Journal.agreements (journal : Journal) : Nat :=
  journal.questions.countP fun question => question.2

theorem Journal.deletions_append (earlier later : Journal) :
    deletions (earlier ++ later) = deletions earlier + deletions later := by
  rw [deletions, requests_append, List.countP_append]
  rfl

theorem Journal.agreements_append (earlier later : Journal) :
    agreements (earlier ++ later) = agreements earlier + agreements later := by
  rw [agreements, questions_append, List.countP_append]
  rfl

theorem Journal.deletions_of_hops {news : Journal} (nothing : news.hops = []) :
    news.deletions = 0 := by
  rw [deletions, requests_eq, nothing]
  rfl

theorem Controller.SendsDeletion.deletions {client : Client} {id : TeacherId}
    {farEnd : Http.FarEnd} {news : Journal}
    (sends : SendsDeletion client id farEnd news.hops) : news.deletions ≤ 1 := by
  rcases sends with ⟨_, deletion, inquiries, hops, _, _, asks⟩ | ⟨_, none⟩
  · have inquiring : inquiries.countP (fun hop => hop.request.method == "DELETE") = 0 := by
      refine List.countP_eq_zero.mpr fun inquiry among => ?_
      rw [(asks inquiry among).method]
      decide
    rw [Journal.deletions, Journal.requests_eq, List.countP_map, hops, List.countP_cons]
    simp only [Function.comp_def, inquiring]
    split <;> decide
  · rw [Journal.deletions_of_hops none]
    exact Nat.zero_le 1

namespace Desk

open Controller (AfterQuestion)

/-- Whether an action is one of the controller. -/
def Action.isOfController : Action → Bool
  | .load | .submit | .delete _ | .beginEdit _ | .beginEditById _ | .find _ | .reset | .toggleForm
  | .updateField _ _ | .updateFieldByName _ _ | .setFilter _ | .clearFilter => true
  | .login _ _ | .loginAsGuest | .validate | .logout | .isLoggedIn | .user | .storeGet _
  | .storeSet _ _ | .storeRemove _ | .token | .evict | .request _ _ _ _ => false

variable (desk : Desk)

theorem unasked_act {action : Action} (ofController : action.isOfController = true)
    (other : ∀ id, action ≠ .delete id) : desk.world.Unasked (desk.act action).2.world := by
  cases action with
  | load =>
    rw [act, world_ofEffect]
    exact Controller.unasked_load desk.client desk.controller desk.world
  | submit =>
    rw [act, world_ofEffect]
    exact Controller.unasked_submit desk.client desk.controller desk.world
  | delete id => exact absurd rfl (other id)
  | beginEdit teacher => exact (World.Unasked.refl desk.world).log _
  | beginEditById id =>
    rw [act, world_ofEffect]
    exact Controller.unasked_beginEditById desk.controller desk.world id
  | updateFieldByName name value =>
    simp only [act]
    split <;> exact .refl desk.world
  | find | reset | toggleForm | updateField | setFilter | clearFilter => exact .refl desk.world
  | _ => cases ofController

/-- No operation but a deletion makes a request to delete, however it is redirected. -/
theorem method_ne_of_act {action : Action} (ofController : action.isOfController = true)
    (other : ∀ id, action ≠ .delete id) :
    ∀ request ∈ ((desk.act action).2.world.since desk.world).requests,
      request.method ≠ "DELETE" := by
  intro request sent
  rw [Journal.requests_eq] at sent
  cases action with
  | submit =>
    cases planned : desk.controller.plan with
    | error fault =>
      rw [hops_act] at sent
      simp [calls, Controller.savingCalls, planned] at sent
    | ok plan =>
      obtain ⟨outcome, method, path⟩ := plan
      rw [act, world_ofEffect, ← Journal.requests_eq] at sent
      have unlike : method ≠ "DELETE" := by
        rcases Controller.plan_cases planned with ⟨_, rfl, _⟩ | ⟨_, _, _, rfl, _⟩ <;> decide
      -- what is sent repeats the request of the plan, or is an inquiry
      rcases Controller.repeats_submit desk.client desk.world planned request sent with
        ⟨same, _⟩ | inquiry
      · rw [same]
        exact unlike
      · rw [inquiry.method]
        decide
  | load =>
    rw [hops_act] at sent
    simp only [calls, List.flatMap_cons, List.flatMap_nil, List.append_nil] at sent
    obtain ⟨hop, among, rfl⟩ := List.mem_map.mp sent
    rw [(Controller.inquiries_loadingCall _ _ hop among).method]
    decide
  | delete id => exact absurd rfl (other id)
  | beginEdit | beginEditById | find | reset | toggleForm | updateField | updateFieldByName
  | setFilter | clearFilter =>
    rw [hops_act] at sent
    cases sent
  | _ => cases ofController

theorem asks_act (id : TeacherId) :
    ∃ rest, (desk.act (.delete id)).2.world.since desk.world =
        .asked deleteQuestion (desk.world.ask deleteQuestion).1 :: rest ∧
      AfterQuestion desk.client id desk.world.farEnd (desk.world.ask deleteQuestion).1 rest := by
  obtain ⟨rest, whole, after⟩ :=
    Controller.asks_erase desk.client desk.controller (desk.world.enter (.delete id.display)) id
  have same : ((desk.world.enter (.delete id.display)).ask deleteQuestion).1 = _ :=
    World.fst_ask_of_same _ desk.world deleteQuestion rfl
  rw [same] at whole after
  exact ⟨rest, whole, after⟩

/-- In every step there are at most as many requests to delete as questions answered with yes. -/
theorem deletions_le_of_act {action : Action} (ofController : action.isOfController = true)
    (once : desk.client.maxRetries = 0) (direct : desk.world.farEnd.IsDirect) :
    ((desk.act action).2.world.since desk.world).deletions ≤
      ((desk.act action).2.world.since desk.world).agreements := by
  by_cases deletes : ∃ id, action = .delete id
  · obtain ⟨id, rfl⟩ := deletes
    obtain ⟨rest, whole, after⟩ := desk.asks_act id
    rw [whole]
    have sent : ∀ answer, Journal.deletions (.asked deleteQuestion answer :: rest) =
        Journal.deletions rest := fun _ => rfl
    rw [sent]
    -- the one question of the step pays for its one request to delete
    generalize (desk.world.ask deleteQuestion).1 = answer at after
    cases answer with
    | false =>
      rw [Journal.deletions_of_hops (after.no rfl)]
      exact Nat.zero_le _
    | true =>
      have agreed : Journal.agreements (.asked deleteQuestion true :: rest) =
          Journal.agreements rest + 1 := List.countP_cons_of_pos rfl
      rw [agreed]
      exact (after.yes rfl once direct).deletions.trans (Nat.le_add_left 1 _)
  · have unlike := desk.method_ne_of_act ofController fun id same => deletes ⟨id, same⟩
    have none : ((desk.act action).2.world.since desk.world).deletions = 0 :=
      List.countP_eq_zero.mpr fun request sent => by simpa using unlike request sent
    rw [none]
    exact Nat.zero_le _

/-- Whatever is done at a desk, the requests to delete do not outnumber the questions that were
answered with yes, if no request is made twice. -/
theorem deletions_le_of_run (steps : List Step) (once : desk.client.maxRetries = 0)
    (proper : ∀ step ∈ steps, step.action.isOfController = true ∧ step.farEnd.IsDirect) :
    ((desk.run steps).world.since desk.world).deletions ≤
      ((desk.run steps).world.since desk.world).agreements := by
  induction steps generalizing desk with
  | nil =>
    rw [run, List.foldl_nil, World.since_self]
    exact Nat.le_refl 0
  | cons step rest ih =>
    obtain ⟨ofController, direct⟩ := proper step List.mem_cons_self
    have first := (desk.meets step.farEnd).deletions_le_of_act ofController once direct
    have same : (desk.take step).2.client = desk.client :=
      client_act (desk.meets step.farEnd) step.action
    have later := ih (desk.take step).2 (same ▸ once)
      fun step among => proper step (List.mem_cons_of_mem _ among)
    rw [since_run_cons, Journal.deletions_append, Journal.agreements_append]
    exact Nat.add_le_add first later

/-- Every deletion asks once, and before anything else. A no is the end of it; after a yes the
record is requested to be deleted once if it can be requested, and then at most the list, as long as
no request is made twice. No other operation of the controller asks anything or makes a request to
delete. So the requests to delete never outnumber the questions that were answered with yes. -/
theorem deletions_confirmed (desk : Desk) :
    (∀ id farEnd,
      let answer := (desk.world.ask deleteQuestion).1
      ∃ rest, (desk.take ⟨farEnd, .delete id⟩).2.world.since desk.world =
          .asked deleteQuestion answer :: rest ∧
        AfterQuestion desk.client id farEnd answer rest) ∧
      (∀ step : Step, step.action.isOfController = true → (∀ id, step.action ≠ .delete id) →
        let news := (desk.take step).2.world.since desk.world
        news.questions = [] ∧ ∀ request ∈ news.requests, request.method ≠ "DELETE") ∧
      ∀ steps : List Step, desk.client.maxRetries = 0 →
        (∀ step ∈ steps, step.action.isOfController = true ∧ step.farEnd.IsDirect) →
          ((desk.run steps).world.since desk.world).deletions ≤
            ((desk.run steps).world.since desk.world).agreements := by
  refine ⟨?_, ?_, ?_⟩
  · intro id farEnd answer
    obtain ⟨rest, whole, after⟩ := (desk.meets farEnd).asks_act id
    have same : ((desk.meets farEnd).world.ask deleteQuestion).1 = answer :=
      World.fst_ask_of_same _ desk.world deleteQuestion rfl
    rw [same] at whole after
    exact ⟨rest, whole, after⟩
  · intro step ofController other
    exact ⟨((desk.meets step.farEnd).unasked_act ofController other).nothing,
      (desk.meets step.farEnd).method_ne_of_act ofController other⟩
  · intro steps once proper
    exact desk.deletions_le_of_run steps once proper

/-- Two deletions with an operator who agrees to the first, and a submission between them. -/
theorem deletions_confirmed_once :
    let desk : Desk := { filledIn with world.confirmation := .answers [true, false] }
    let news := (desk.run [⟨.script [.answer ⟨204, [], .empty⟩], .delete (.number 1)⟩,
      ⟨.script [.hang], .submit⟩, ⟨.script [], .delete (.number 2)⟩]).world.since desk.world
    news.questions.length = 2 ∧ news.deletions = 1 ∧ news.deletions ≤ news.agreements := by
  intro desk news
  refine ⟨by decide +kernel, by decide +kernel, ?_⟩
  refine (deletions_confirmed desk).2.2 _ rfl fun step among => ?_
  simp only [List.mem_cons, List.not_mem_nil, or_false] at among
  rcases among with rfl | rfl | rfl
  all_goals exact ⟨rfl, by simp [Http.FarEnd.IsDirect, Http.Reply.isRedirection,
    Http.Response.isRedirection]⟩

/-- The sample desk with an address to which nothing can be sent. -/
def unsendable : Desk := { sample with client.baseUrl := "ftp://api.test/api" }

/-- An address can be one to which no requests are made. -/
theorem agreed_and_unsent :
    ¬ ∀ (desk : Desk) (id : TeacherId) (farEnd : Http.FarEnd) (url : Url),
      desk.client.maxRetries = 0 → farEnd.IsDirect → (desk.world.ask deleteQuestion).1 = true →
        desk.client.urlFor (itemPath id) = .ok url →
          ((desk.take ⟨farEnd, .delete id⟩).2.world.since desk.world).deletions = 1 := by
  intro always
  have direct : (Http.FarEnd.script [.drop]).IsDirect := by
    show ∀ reply ∈ [_], Http.Reply.isRedirection reply = false
    decide
  have formed : (unsendable.client.urlFor (itemPath (.number 1))).toOption.isSome = true := by
    decide +kernel
  have unsent : ((unsendable.take ⟨.script [.drop], .delete (.number 1)⟩).2.world.since
      unsendable.world).deletions = 0 := by decide +kernel
  cases address : unsendable.client.urlFor (itemPath (.number 1)) with
  | error e =>
    rw [address] at formed
    cases formed
  | ok url =>
    have sent := always unsendable (.number 1) (.script [.drop]) url rfl direct rfl address
    rw [unsent] at sent
    cases sent

end Desk

end TeacherRegistry
