import TeacherRegistry.Proofs.Acceptance
import TeacherRegistry.Proofs.DirectCalls
import TeacherRegistry.Proofs.EditIntegrity
import TeacherRegistry.Proofs.Listings
import TeacherRegistry.Proofs.Servers

/-!
# The trace of a change

A change that was accepted leaves two requests behind if no request is made twice: the one for the
change, and then one for the list. The second is always made, since where a record can be requested
the list can be requested too. The operator hears of the change, and of the list only if there is
none in the second reply.
-/

namespace TeacherRegistry

open Json (Value)
open Http (Hop)

namespace Controller

/-- The path of the list, or of a record. -/
def IsRegistryPath (path : String) : Prop :=
  path = listPath ∨ ∃ id, path = itemPath id

theorem registryPath_of_plan {c : Controller} {outcome : SaveOutcome} {method path : String}
    (planned : c.plan = .ok (outcome, method, path)) : IsRegistryPath path := by
  rcases plan_cases planned with ⟨_, _, rfl⟩ | ⟨id, _, _, _, rfl⟩
  · exact Or.inl rfl
  · exact Or.inr ⟨id, rfl⟩

end Controller

open Controller (IsRegistryPath listPath itemPath)

namespace Client

variable {client : Client}

private theorem parse_of_itemPath {id : TeacherId} {url : Url}
    (address : client.urlFor (itemPath id) = .ok url) :
    Url.parse (client.baseUrl ++ "/" ++ "docentes" ++ "/" ++ String.ofList id.display.toList) =
      .ok url := by
  have path : (itemPath id).toList.dropWhile (· == '/') =
      "docentes".toList ++ '/' :: id.display.toList := by
    simp only [itemPath, listPath, String.toList_append, List.append_assoc]
    rfl
  have parsed := parse_of_urlFor address
  rw [path] at parsed
  refine Eq.trans (congrArg Url.parse (String.toList_inj.mp ?_)) parsed
  simp only [String.toList_append, String.toList_ofList, List.append_assoc]
  rfl

/-- Where a record can be requested, so can the list. -/
theorem sendable_list {path : String} {url : Url} (ofRegistry : IsRegistryPath path)
    (address : client.urlFor path = .ok url) (sendable : Http.isSendable url.requested = true) :
    ∃ list, client.urlFor listPath = .ok list ∧ Http.isSendable list.requested = true := by
  rcases ofRegistry with rfl | ⟨id, rfl⟩
  · exact ⟨url, address, sendable⟩
  · have same : Http.isSendable url.requested = Http.isSendable url :=
      Url.isSendable_requested rfl rfl
    rw [same] at sendable
    have network := Url.isNetwork_of_isHttp (Bool.and_eq_true_iff.mp sendable).1
    -- the address of the record is that of the list, written on
    have ends : (client.baseUrl ++ "/" ++ "docentes").toList.getLast? = some 's' := by
      rw [String.toList_append, List.getLast?_append]
      rfl
    obtain ⟨path, query, fragment, parsed⟩ :=
      Url.parse_before ends (by decide) (by decide) (by decide) (parse_of_itemPath address) network
    refine ⟨{ url with path, query, fragment }, ?_, ?_⟩
    · have full : client.baseUrl ++ "/" ++ String.ofList (listPath.toList.dropWhile (· == '/')) =
          client.baseUrl ++ "/" ++ "docentes" := rfl
      rw [urlFor, full, parsed]
      rfl
    · have same : Http.isSendable (Url.requested { url with path, query, fragment }) =
          Http.isSendable url := Url.isSendable_requested rfl rfl
      exact same.trans sendable

/-- What is known of a call that is made once and was answered. -/
structure Single (client : Client) (method path : String) (body : Option String) (w v : World) :
    Prop where
  spends : w.Spends v
  direct : v.farEnd.IsDirect
  hops : ∃ hop, (v.since w).hops = [hop] ∧ hop.request.Asks client method path body
  reaches : client.Reaches path v.farEnd

variable {α : Type} {decode : ByteArray → Option α} {method path : String} {body : Option String}
  {w v : World}

theorem single_of_answered (direct : w.farEnd.IsDirect) (once : client.maxRetries = 0)
    {answer : Answer α} (called : client.request decode method path body w = (.ok answer, v)) :
    client.Single method path body w v := by
  have spends := spends_of_request called
  obtain ⟨direct', reachable⟩ := direct_of_spends direct spends
  rcases hops_of_direct direct once called with ⟨⟨url, address, sendable, here⟩, sent⟩ | ⟨_, none⟩
  · exact ⟨spends, direct', sent, url, address, sendable, reachable.trans here⟩
  · -- an answer does not come without a request
    refine absurd ?_ (requests_of_answered called)
    rw [Journal.requests_eq, none, List.map_nil]

end Client

namespace Controller

variable {client : Client} {c later : Controller} {u v w : World}

/-- The reading of the list as it is made once, with what its reply holds. -/
theorem hop_of_fetch (direct : w.farEnd.IsDirect) (once : client.maxRetries = 0)
    (reaches : client.Reaches listPath w.farEnd) {result : Except TransportError (List Teacher)}
    (fetched : fetch client w = (result, v)) :
    ∃ hop, (v.since w).hops = [hop] ∧ hop.request.Asks client "GET" listPath none ∧
      hop.listed? = result.toOption := by
  obtain ⟨answer, called⟩ := request_of_fetch fetched
  rcases Client.hops_of_direct direct once called with ⟨_, hop, hops, asks⟩ | ⟨lost, _⟩
  · refine ⟨hop, hops, asks, ?_⟩
    rw [← listed?_of_fetch fetched, Call.listed?, loadingCall, Call.news_of called, hops]
    rfl
  · exact absurd reaches lost

/-- What comes of the reply to a request for the list, by the controller and by the notices that are
left behind: the records that the reply brings become the collection, and nothing is said, and if it
brings none then the operator is told so, and nothing changes. -/
inductive Relists (c : Controller) (hop : Hop) : Controller → List (Tone × String) → Prop
  | listed {response : Http.Response} {teachers : List Teacher}
    (brings : hop.Brings response teachers) : Relists c hop { c with collection := teachers } []
  | unlisted (nothing : ∀ response teachers, ¬ hop.Brings response teachers) (reason : String) :
    Relists c hop c [(.failure, loadFailure ++ ": " ++ reason)]

/-- What reading the list again leaves behind: one request, and what comes of its reply. -/
def Rereads (client : Client) (c later : Controller) (news : Journal) : Prop :=
  ∃ hop, news.hops = [hop] ∧ hop.request.Asks client "GET" listPath none ∧
    Relists c hop later news.notices

private theorem rereads_refresh (direct : w.farEnd.IsDirect) (once : client.maxRetries = 0)
    (reaches : client.Reaches listPath w.farEnd) :
    Rereads client c (refresh client c w).controller ((refresh client c w).world.since w) := by
  have ends := refreshing_refresh client c w
  generalize refresh client c w = effect at ends
  cases ends with
  | @failed e v fetched =>
    -- there is no list in the reply, and the operator is told why
    obtain ⟨hop, hops, asks, listed⟩ := hop_of_fetch direct once reaches fetched
    obtain ⟨answer, called⟩ := request_of_fetch fetched
    have told : (notifyFailure v loadFailure e.message).since v =
        [.notice .failure (loadFailure ++ ": " ++ e.message)] := World.since_eq rfl
    have all := World.since_trans (Client.precedes_of_request called)
      (World.silent_notify v .failure (loadFailure ++ ": " ++ e.message)).precedes
    rw [← notifyFailure, told] at all
    refine ⟨hop, ?_, asks, ?_⟩
    · rw [all, Journal.hops_append, hops]
      rfl
    · rw [all, Journal.notices_append, (Client.spends_of_request called).notices_since]
      exact .unlisted (Hop.listed?_eq_none_iff.mp listed) e.message
  | @done teachers v fetched =>
    obtain ⟨hop, hops, asks, listed⟩ := hop_of_fetch direct once reaches fetched
    obtain ⟨answer, called⟩ := request_of_fetch fetched
    have spends := (Client.spends_of_request called).log (.collectionLoaded teachers.length)
    refine ⟨hop, ?_, asks, ?_⟩
    · rw [← hops, World.since_trans (Client.precedes_of_request called)
        (World.silent_log v _).precedes, Journal.hops_append, (World.silent_log v _).hops_since,
        List.append_nil]
    · obtain ⟨response, brings⟩ := Hop.listed?_eq_some_iff.mp listed
      rw [spends.notices_since]
      exact .listed brings

theorem Rereads.of_same {news more : Journal} (rereads : Rereads client c later news)
    (hops : more.hops = news.hops) (notices : more.notices = news.notices) :
    Rereads client c later more := by
  unfold Rereads at *
  rw [hops, notices]
  exact rereads

private theorem rereads_reload (failed : Log.Event) (direct : w.farEnd.IsDirect)
    (once : client.maxRetries = 0)
    (reaches : client.Reaches listPath w.farEnd) :
    Rereads client c (reload client failed c w).1 ((reload client failed c w).2.since w) := by
  have loaded :
      Rereads client c (load client c w).controller ((load client c w).world.since w) := by
    rw [load, since_within, controller_within]
    exact rereads_refresh direct once reaches
  have grows := (calling_load client c w).precedes
  unfold reload
  generalize load client c w = effect at loaded grows
  obtain ⟨result, after, v⟩ := effect
  cases result with
  | ok _ => exact loaded
  | error e =>
    have reported := World.silent_log v failed
    refine loaded.of_same ?_ ?_
    all_goals rw [World.since_trans grows reported.precedes]
    · rw [Journal.hops_append, reported.hops_since, List.append_nil]
    · rw [Journal.notices_append, ((World.Spends.refl v).log failed).notices_since,
        List.append_nil]

/-- What a change that was accepted leaves behind: the request for it and then one for the list, the
notice of success, and behind it what comes of the second reply. -/
def Traces (client : Client) (method path : String) (body : Option String) (success : String)
    (c later : Controller) (news : Journal) : Prop :=
  ∃ change hop, news.hops = [change, hop] ∧ change.request.Asks client method path body ∧
    hop.request.Asks client "GET" listPath none ∧
    ∃ told, news.notices = (.success, success) :: told ∧ Relists c hop later told

theorem Traces.of_same {method path success : String} {body : Option String} {news more : Journal}
    (traces : Traces client method path body success c later news) (hops : more.hops = news.hops)
    (notices : more.notices = news.notices) :
    Traces client method path body success c later more := by
  unfold Traces at *
  rw [hops, notices]
  exact traces

theorem traces_of_change {α : Type} {decode : ByteArray → Option α} {method path : String}
    {body : Option String} {answer : Answer α} {event failed : Log.Event} {success : String}
    (direct : w.farEnd.IsDirect) (once : client.maxRetries = 0) (ofRegistry : IsRegistryPath path)
    (called : client.request decode method path body w = (.ok answer, v))
    (reloaded : reload client failed c ((v.log event).notify .success success) = (later, u)) :
    Traces client method path body success c later (u.since w) := by
  have single := Client.single_of_answered direct once called
  obtain ⟨change, sent, asks⟩ := single.hops
  obtain ⟨url, address, sendable, here⟩ := single.reaches
  obtain ⟨list, address', sendable'⟩ := Client.sendable_list ofRegistry address sendable
  -- the change is told before the list is read
  let told := (v.log event).notify .success success
  have rereads : Rereads client c (reload client failed c told).1
      ((reload client failed c told).2.since told) :=
    rereads_reload failed single.direct once ⟨list, address', sendable', here⟩
  rw [reloaded] at rereads
  obtain ⟨hop, hops, asks', relists⟩ := rereads
  have after : told.Precedes u := by
    have grows := (calling_reload client c told failed).precedes
    rw [reloaded] at grows
    exact grows
  have between : told.since v = [.logged event v.spans, .notice .success success] :=
    World.since_eq (List.append_assoc _ _ _)
  have all : u.since w = v.since w ++ (told.since v ++ u.since told) := by
    have precedes : v.Precedes told := ⟨_, List.append_assoc _ _ _⟩
    rw [World.since_trans (Client.precedes_of_request called) (precedes.trans after),
      World.since_trans precedes after]
  refine ⟨change, hop, ?_, asks, asks', (u.since told).notices, ?_, relists⟩
  · rw [all, between, Journal.hops_append, Journal.hops_append, sent, hops]
    rfl
  · rw [all, between, Journal.notices_append, Journal.notices_append, single.spends.notices_since]
    rfl

variable (client c w)

theorem traces_save {outcome : SaveOutcome} (direct : w.farEnd.IsDirect)
    (once : client.maxRetries = 0) (saved : (save client c w).result = .ok outcome) :
    ∃ path, c.plan = .ok (outcome, outcome.method, path) ∧
      Traces client outcome.method path (some c.draft.json) outcome.notice c.reset
        (save client c w).controller ((save client c w).world.since w) := by
  have ends := saving_save client c w
  generalize save client c w = effect at ends saved
  cases ends with
  | invalid planned => cases saved
  | refused planned called => cases saved
  | @accepted outcome method path answer u v later planned called reloaded =>
    cases saved
    obtain rfl := method_of_plan planned
    exact ⟨path, planned,
      traces_of_change direct once (registryPath_of_plan planned) called reloaded⟩

theorem traces_erase {id : TeacherId} (direct : w.farEnd.IsDirect) (once : client.maxRetries = 0)
    (deleted : (eraseIfConfirmed client c id w).result = .ok .deleted) :
    Traces client "DELETE" (itemPath id) none deleteSuccess c
      (eraseIfConfirmed client c id w).controller
      ((eraseIfConfirmed client c id w).world.since w) := by
  have ends := erasing_erase client c w id
  generalize eraseIfConfirmed client c id w = effect at ends deleted
  cases ends with
  | declined asked => cases deleted
  | refused asked called => cases deleted
  | @accepted answer t u v later asked called reloaded =>
    -- the question comes before everything else
    have grown := w.journal_ask deleteQuestion
    have same := w.farEnd_ask deleteQuestion
    rw [asked] at grown same
    have traces := traces_of_change (same ▸ direct) once (Or.inr ⟨id, rfl⟩) called reloaded
    have precedes := (client.precedes_of_request called).trans (precedes_of_reload reloaded)
    have all := World.since_trans ⟨_, grown⟩ precedes
    rw [World.since_eq grown] at all
    refine traces.of_same ?_ ?_ <;> rw [all] <;> rfl

end Controller

namespace Desk

open Controller (Traces)

variable (desk : Desk) {action : Action}

theorem traces_of_saved {outcome : Controller.SaveOutcome} (direct : desk.world.farEnd.IsDirect)
    (once : desk.client.maxRetries = 0) (saved : (desk.act action).1 = .ok (.saved outcome)) :
    ∃ path, desk.controller.plan = .ok (outcome, outcome.method, path) ∧
      Traces desk.client outcome.method path (some desk.controller.draft.json) outcome.notice
        desk.controller.reset (desk.act action).2.controller
        ((desk.act action).2.world.since desk.world) := by
  cases reported_act saved with
  | saved result =>
    rw [act, controller_ofEffect, world_ofEffect, Controller.submit, Controller.controller_within,
      Controller.since_within]
    exact Controller.traces_save desk.client desk.controller _ direct once result
  | other unrelated => cases unrelated

theorem traces_of_deleted (direct : desk.world.farEnd.IsDirect)
    (once : desk.client.maxRetries = 0) (deleted : (desk.act action).1 = .ok (.deleted .deleted)) :
    ∃ id, action = .delete id ∧
      Traces desk.client "DELETE" (itemPath id) none Controller.deleteSuccess desk.controller
        (desk.act action).2.controller ((desk.act action).2.world.since desk.world) := by
  cases reported_act deleted with
  | @deleted id _ result =>
    refine ⟨id, rfl, ?_⟩
    rw [act, controller_ofEffect, world_ofEffect, Controller.delete, Controller.controller_within,
      Controller.since_within]
    exact Controller.traces_erase desk.client desk.controller _ direct once result
  | other unrelated => cases unrelated

/-- Where nothing is retried and no reply redirects, a draft that was saved and a record that was
deleted leave two requests behind, for the change and for the list. The operator is told of the
change, and then of a failure exactly if the second reply holds no list. The collection is that
list, or stays as it was. Saving empties and closes the form whatever the second reply is, and
nothing else of the controller changes. -/
theorem change_traces (desk : Desk) (step : Step) (direct : step.farEnd.IsDirect)
    (once : desk.client.maxRetries = 0) :
    let after := (desk.take step).2
    let news := after.world.since desk.world
    (∀ outcome, (desk.take step).1 = .ok (.saved outcome) →
      ∃ path, desk.controller.plan = .ok (outcome, outcome.method, path) ∧
        Traces desk.client outcome.method path (some desk.controller.draft.json) outcome.notice
          { desk.controller with draft := .empty, editing := false, formVisible := false }
          after.controller news) ∧
      ((desk.take step).1 = .ok (.deleted .deleted) →
        ∃ id, step.action = .delete id ∧
          Traces desk.client "DELETE" (itemPath id) none Controller.deleteSuccess desk.controller
            after.controller news) := by
  intro after news
  exact ⟨fun outcome saved => traces_of_saved (desk.meets step.farEnd) direct once saved,
    fun deleted => traces_of_deleted (desk.meets step.farEnd) direct once deleted⟩

/-- A new record is taken up, and then this is the reply to the request for the list. -/
def takenThen (reply : Http.Reply) : Step :=
  ⟨.script [.answer ⟨201, [], .empty⟩, reply], .submit⟩

/-- A list with the new record. -/
def listing : Http.Reply :=
  .answer ⟨200, [], ("[\x7b\"id\":7,\"identificacion\":\"12345678\",\"nombre\":\"Ana\"," ++
    "\"email\":\"ana@x.com\",\"especialidad\":\"Math\"\x7d]").toUTF8⟩

/-- The session is refused. -/
def refusal : Http.Reply := .answer ⟨401, [], .empty⟩

/-- The draft is taken up and the form emptied with either reply, and only a list takes the place of
the collection. -/
theorem change_traces_taken :
    let after := fun reply => (filledIn.take (takenThen reply)).2
    let news := fun reply => (after reply).world.since filledIn.world
    let Taken := fun reply =>
      (filledIn.take (takenThen reply)).1 = .ok (.saved .created) ∧
        Traces filledIn.client "POST" Controller.listPath (some filledIn.controller.draft.json)
          "Docente registrado correctamente" .initial (after reply).controller (news reply)
    (Taken listing ∧ (news listing).notices.length = 1 ∧
      (after listing).controller = { Controller.initial with
        collection := [⟨some (.number 7), "12345678", "Ana", "ana@x.com", "Math"⟩] }) ∧
    (Taken refusal ∧ (news refusal).notices.length = 2 ∧
      (after refusal).controller = .initial) := by
  intro after news Taken
  have plan : filledIn.controller.plan = .ok (.created, "POST", Controller.listPath) := by
    decide +kernel
  have taken : ∀ reply, Http.Reply.isRedirection reply = false →
      savedAs? (filledIn.take (takenThen reply)).1 = some .created → Taken reply := by
    intro reply stays created
    have direct : (takenThen reply).farEnd.IsDirect := by
      show ∀ reply ∈ [_, _], Http.Reply.isRedirection reply = false
      simpa using ⟨rfl, stays⟩
    have saved := eq_of_savedAs? created
    obtain ⟨path, planned, traces⟩ :=
      (change_traces filledIn (takenThen reply) direct rfl).1 .created saved
    rw [plan] at planned
    cases planned
    exact ⟨saved, traces⟩
  have listed : savedAs? (filledIn.take (takenThen listing)).1 = some .created ∧
      (news listing).notices.length = 1 ∧ (after listing).controller = { Controller.initial with
        collection := [⟨some (.number 7), "12345678", "Ana", "ana@x.com", "Math"⟩] } := by
    decide +kernel
  have refused : savedAs? (filledIn.take (takenThen refusal)).1 = some .created ∧
      (news refusal).notices.length = 2 ∧ (after refusal).controller = .initial := by
    decide +kernel
  exact ⟨⟨taken listing rfl listed.1, listed.2⟩, taken refusal rfl refused.1, refused.2⟩

end Desk

end TeacherRegistry
