import Mathlib.Data.List.Flatten
import TeacherRegistry.Proofs.CallOutcomes
import TeacherRegistry.Proofs.CallSequences

/-!
# The collection is the list that was read last

The controller reads the list of the server when it is told to, and again after every change that was
accepted. The very last reply to such a call decides what the call comes back with: a list, or
nothing. The collection is the last list that any of these calls came back with, and there is no
other way to it.
-/

namespace TeacherRegistry

open Http (Hop)

/-- Bytes that hold a JSON array of which every item is a record: these, in their order. -/
def Lists (bytes : ByteArray) (teachers : List Teacher) : Prop :=
  ∃ items, Json.Document.ofBytes? bytes = some (.array items) ∧
    List.Forall₂ (fun item teacher => Teacher.ofDocument? item = some teacher) items teachers

private theorem mapM_eq_some_iff {α β : Type} {f : α → Option β} {items : List α}
    {results : List β} :
    items.mapM f = some results ↔ List.Forall₂ (fun item result => f item = some result) items
      results := by
  induction items generalizing results with
  | nil =>
    simp only [List.mapM_nil, pure, Option.some.injEq, List.forall₂_nil_left_iff, eq_comm]
  | cons item rest ih =>
    rw [List.mapM_cons, List.forall₂_cons_left_iff]
    simp only [bind, Option.bind_eq_some_iff, pure, Option.some.injEq]
    constructor
    · rintro ⟨result, first, others, read, same⟩
      exact ⟨result, others, first, ih.mp read, same.symm⟩
    · rintro ⟨result, others, first, read, same⟩
      exact ⟨result, first, others, ih.mpr read, same.symm⟩

/-- One item that is no record spoils the list. -/
theorem decodeList?_eq_some_iff {bytes : ByteArray} {teachers : List Teacher} :
    Controller.decodeList? bytes = some teachers ↔ Lists bytes teachers := by
  unfold Controller.decodeList? Lists
  constructor
  · intro read
    obtain ⟨document, holds, list⟩ := Option.bind_eq_some_iff.mp read
    cases document with
    | array items => exact ⟨items, holds, mapM_eq_some_iff.mp list⟩
    | _ => cases list
  · rintro ⟨items, holds, each⟩
    rw [holds]
    exact mapM_eq_some_iff.mpr each

/-! ### What a call comes back with -/

/-- The list in a reply to a request: the reply must be complete and tell of success, and its body
must be there, claim to be JSON and hold a list of records. -/
def Http.Hop.listed? (hop : Hop) : Option (List Teacher) :=
  match hop.reply with
  | .answer response =>
    if response.isSuccess && !response.isBodiless hop.request.method
        && !response.body.toList.all Client.isAsciiBlank && Client.claimsJson response then
      Controller.decodeList? response.body
    else none
  | _ => none

/-- The list that a call came back with, if its very last reply brought one. -/
def Call.listed? (call : Call) : Option (List Teacher) :=
  call.news.hops.getLast?.bind Hop.listed?

/-- The reply to a request brings these records: its response is complete and tells of success, its
body is there and holds JSON, and it lists the records. -/
structure Http.Hop.Brings (hop : Hop) (response : Http.Response) (teachers : List Teacher) :
    Prop where
  reply : hop.reply = .answer response
  success : response.isSuccess = true
  bodied : response.isBodiless hop.request.method = false
  json : ¬ response.HoldsNoJson
  lists : Lists response.body teachers

namespace Http.Hop

variable {hop : Hop} {response : Http.Response} {teachers : List Teacher}

theorem carries_iff_brings :
    Client.Carries Controller.decodeList? hop response teachers ↔ hop.Brings response teachers := by
  have json : ¬ response.HoldsNoJson ↔ response.body.toList.all Client.isAsciiBlank = false ∧
      Client.claimsJson response = true := by
    rw [Client.holdsNoJson_iff, not_or, Bool.not_eq_true, Bool.not_eq_false]
  constructor
  · rintro ⟨reply, success, bodied, filled, claims, holds⟩
    exact ⟨reply, success, bodied, json.mpr ⟨filled, claims⟩, decodeList?_eq_some_iff.mp holds⟩
  · rintro ⟨reply, success, bodied, holds, lists⟩
    obtain ⟨filled, claims⟩ := json.mp holds
    exact ⟨reply, success, bodied, filled, claims, decodeList?_eq_some_iff.mpr lists⟩

theorem listed?_eq_some_iff : hop.listed? = some teachers ↔
    ∃ response, hop.Brings response teachers := by
  simp only [← carries_iff_brings]
  unfold listed?
  constructor
  · intro listed
    split at listed
    next response reply =>
      split at listed
      next proper =>
        simp only [Bool.and_eq_true, Bool.not_eq_true'] at proper
        obtain ⟨⟨⟨success, bodied⟩, filled⟩, json⟩ := proper
        exact ⟨response, reply, success, bodied, filled, json, listed⟩
      · cases listed
    · cases listed
  · rintro ⟨response, reply, success, bodied, filled, json, holds⟩
    simp only [reply, success, bodied, filled, json, Bool.not_false, Bool.and_self, if_true, holds]

theorem listed?_eq_none_iff : hop.listed? = none ↔
    ∀ response teachers, ¬ hop.Brings response teachers := by
  rw [Option.eq_none_iff_forall_ne_some]
  constructor
  · intro unlisted response teachers brings
    exact unlisted teachers (listed?_eq_some_iff.mpr ⟨response, brings⟩)
  · intro nothing teachers listed
    obtain ⟨response, brings⟩ := listed?_eq_some_iff.mp listed
    exact nothing response teachers brings

end Http.Hop

theorem Call.listed?_eq_some_iff {call : Call} {teachers : List Teacher} :
    call.listed? = some teachers ↔
      ∃ hop response, call.news.hops.getLast? = some hop ∧ hop.Brings response teachers := by
  rw [listed?, Option.bind_eq_some_iff]
  constructor
  · rintro ⟨hop, last, listed⟩
    obtain ⟨response, brings⟩ := Hop.listed?_eq_some_iff.mp listed
    exact ⟨hop, response, last, brings⟩
  · rintro ⟨hop, response, last, brings⟩
    exact ⟨hop, last, Hop.listed?_eq_some_iff.mpr ⟨response, brings⟩⟩

namespace Controller

variable {client : Client} {w v : World}

/-- The call comes back with the list that the controller takes over. -/
theorem listed?_loadingCall (teachers : List Teacher) :
    (loadingCall client w).listed? = some teachers ↔
      ∃ answer, (client.request decodeList? "GET" listPath none w).1 = .ok answer ∧
        answer.data = some teachers := by
  cases address : client.urlFor listPath with
  | error e =>
    have called : client.request decodeList? "GET" listPath none w = (.error e, w) := by
      rw [Client.request, address]
    rw [Call.listed?, loadingCall, Call.news_of called, (World.Silent.refl w).hops_since, called]
    constructor
    · intro listed
      cases listed
    · rintro ⟨answer, answered, _⟩
      cases answered
  | ok url =>
    obtain ⟨news, proceeds⟩ := client.request_proceeds decodeList? "GET" none w address
    have same : (loadingCall client w).news = news := World.since_eq proceeds.grown
    rw [proceeds.data_iff, Call.listed?_eq_some_iff, same]
    simp only [Hop.carries_iff_brings]

theorem listed?_of_fetch {result : Except TransportError (List Teacher)}
    (fetched : fetch client w = (result, v)) : (loadingCall client w).listed? = result.toOption := by
  apply Option.ext
  intro teachers
  rw [listed?_loadingCall]
  unfold fetch at fetched
  split at fetched
  next e u called =>
    cases fetched
    simp [called, Except.toOption]
  next answer u called =>
    rw [called]
    split at fetched
    next given =>
      cases fetched
      simp [given, Except.toOption]
    next none =>
      cases fetched
      simp [none, Except.toOption]

end Controller

/-- The last list that one of these calls came back with. -/
def lastListed? (calls : List Call) : Option (List Teacher) :=
  (calls.filterMap Call.listed?).getLast?

theorem lastListed?_append (earlier later : List Call) :
    lastListed? (earlier ++ later) = (lastListed? later).or (lastListed? earlier) := by
  rw [lastListed?, List.filterMap_append, List.getLast?_append]
  rfl

theorem lastListed?_singleton (call : Call) : lastListed? [call] = call.listed? := by
  rw [lastListed?, List.filterMap_cons, List.filterMap_nil]
  cases call.listed? <;> rfl

/-! ### The operations -/

namespace Controller

variable (client : Client) (c : Controller) (w : World)

private theorem collection_refresh :
    (refresh client c w).controller.collection =
      (loadingCall client w).listed?.getD c.collection := by
  have ends := refreshing_refresh client c w
  generalize refresh client c w = effect at ends
  cases ends with
  -- the collection is given up for a list only
  | failed fetched =>
    rw [listed?_of_fetch fetched]
    rfl
  | done fetched =>
    rw [listed?_of_fetch fetched]
    rfl

private theorem collection_reload (failed : Log.Event) :
    (reload client failed c w).1.collection =
      (loadingCall client (w.enter .load)).listed?.getD c.collection := by
  have loaded : (load client c w).controller.collection = _ :=
    collection_refresh client c (w.enter .load)
  unfold reload
  split
  next later v outcome =>
    rw [outcome] at loaded
    exact loaded
  next e later v outcome =>
    rw [outcome] at loaded
    exact loaded

private theorem collection_save :
    (save client c w).controller.collection =
      (lastListed? (savingCalls client c w).tail).getD c.collection := by
  have ends := saving_save client c w
  generalize save client c w = effect at ends
  unfold savingCalls
  cases ends with
  | invalid planned =>
    rw [planned]
    rfl
  | refused planned called =>
    rw [planned]
    simp only [called]
    rfl
  | @accepted outcome method path answer u v later planned called reloaded =>
    -- the form has been emptied before the list is read again, which leaves the collection alone
    have read := collection_reload client c.reset
      ((v.log (.draftSaved outcome.label)).notify .success outcome.notice) .reloadFailedAfterSave
    rw [reloaded] at read
    rw [planned]
    simp only [called, List.tail_cons, lastListed?_singleton]
    exact read

private theorem collection_erase (id : TeacherId) :
    (eraseIfConfirmed client c id w).controller.collection =
      (lastListed? (erasingCalls client id w).tail).getD c.collection := by
  have ends := erasing_erase client c w id
  generalize eraseIfConfirmed client c id w = effect at ends
  unfold erasingCalls
  cases ends with
  | declined asked =>
    rw [asked]
    rfl
  | refused asked called =>
    rw [asked]
    simp only [called]
    rfl
  | @accepted answer t u v later asked called reloaded =>
    have read := collection_reload client c
      ((u.log .recordDeleted).notify .success deleteSuccess) .reloadFailedAfterDelete
    rw [reloaded] at read
    rw [asked]
    simp only [called, List.tail_cons, lastListed?_singleton]
    exact read

theorem mem_tail_savingCalls {client : Client} {c : Controller} {w : World} {call : Call}
    (among : call ∈ (savingCalls client c w).tail) : ∃ v, call = loadingCall client v := by
  unfold savingCalls at among
  split at among
  · cases among
  · split at among
    · cases among
    · exact ⟨_, List.mem_singleton.mp among⟩

theorem mem_tail_erasingCalls {client : Client} {id : TeacherId} {w : World} {call : Call}
    (among : call ∈ (erasingCalls client id w).tail) : ∃ v, call = loadingCall client v := by
  unfold erasingCalls at among
  split at among
  · cases among
  · split at among
    · cases among
    · exact ⟨_, List.mem_singleton.mp among⟩

end Controller

namespace Desk

/-! ### Runs -/

/-- The calls of an action by which the controller reads the list: all calls of a load, and those
that come after the change in a submission or a deletion. -/
def listingsOf (desk : Desk) (action : Action) : List Call :=
  match action with
  | .load => desk.calls action
  | .submit | .delete _ => (desk.calls action).tail
  | _ => []

/-- The calls by which the controller reads the list in a run. -/
def listings (desk : Desk) : List Step → List Call
  | [] => []
  | step :: rest =>
    (desk.meets step.farEnd).listingsOf step.action ++ (desk.take step).2.listings rest

theorem eq_of_mem_listingsOf {desk : Desk} {action : Action} {call : Call}
    (among : call ∈ desk.listingsOf action) :
    ∃ w, call = Controller.loadingCall desk.client w := by
  cases action with
  | load => exact ⟨_, List.mem_singleton.mp among⟩
  | submit => exact Controller.mem_tail_savingCalls among
  | delete id => exact Controller.mem_tail_erasingCalls among
  | _ => cases among

theorem eq_of_mem_listings {steps : List Step} {call : Call} (desk : Desk)
    (among : call ∈ desk.listings steps) :
    ∃ w, call = Controller.loadingCall desk.client w := by
  induction steps generalizing desk with
  | nil => cases among
  | cons step rest ih =>
    rcases List.mem_append.mp among with first | later
    · obtain ⟨w, same⟩ := eq_of_mem_listingsOf first
      exact ⟨w, same⟩
    · obtain ⟨w, same⟩ := ih _ later
      rw [take, client_act] at same
      exact ⟨w, same⟩

theorem listingsOf_sublist (desk : Desk) (action : Action) :
    (desk.listingsOf action).Sublist (desk.calls action) := by
  cases action with
  | load => exact List.Sublist.refl _
  | submit | delete => exact List.tail_sublist _
  | _ => exact List.nil_sublist _

/-- No action touches the collection except by a list that it reads. -/
theorem collection_act (desk : Desk) (action : Action) :
    (desk.act action).2.controller.collection =
      (lastListed? (desk.listingsOf action)).getD desk.controller.collection := by
  cases action with
  | load =>
    simp only [act, controller_ofEffect, listingsOf, calls, lastListed?_singleton]
    exact Controller.collection_refresh desk.client desk.controller (desk.world.enter .load)
  | submit =>
    simp only [act, controller_ofEffect]
    exact Controller.collection_save desk.client desk.controller _
  | delete id =>
    simp only [act, controller_ofEffect]
    exact Controller.collection_erase desk.client desk.controller _ id
  | beginEditById id =>
    simp only [act, controller_ofEffect, Controller.beginEditById]
    split <;> rfl
  | toggleForm =>
    simp only [act, Controller.toggleForm]
    split <;> rfl
  | updateFieldByName name value =>
    simp only [act, Controller.updateFieldByName]
    cases Teacher.Field.ofString? name <;> rfl
  | _ => rfl

theorem collection_run (desk : Desk) (steps : List Step) :
    (desk.run steps).controller.collection =
      (lastListed? (desk.listings steps)).getD desk.controller.collection := by
  induction steps generalizing desk with
  | nil => rfl
  | cons step rest ih =>
    -- a later list counts before the one that the first step has read
    have first : (desk.take step).2.controller.collection = _ :=
      collection_act (desk.meets step.farEnd) step.action
    rw [run_cons, ih, first, listings, lastListed?_append, Option.getD_or]
    rfl

/-- The calls that read the list are among those of the run. -/
theorem hops_listings (desk : Desk) (steps : List Step) :
    ((desk.listings steps).flatMap fun call => call.news.hops).Sublist
      ((desk.run steps).world.since desk.world).hops := by
  induction steps generalizing desk with
  | nil => exact List.nil_sublist _
  | cons step rest ih =>
    have first := listingsOf_sublist (desk.meets step.farEnd) step.action
    rw [hops_run_cons, listings, List.flatMap_append]
    exact (first.flatMap fun call => call.news.hops).append (ih _)

end Desk

/-- In every run the collection is the last list that the controller read, and empty if it has read
none. It reads the list by calls for `GET /docentes`, and such a call comes back with a list exactly if
its very last reply is complete, tells of success, claims to be JSON and holds an array of which
every item is a record. -/
theorem Desk.collection_is_last_list (client : Client) (world : World) (steps : List Desk.Step) :
    let start := Desk.initial client world
    let listings := start.listings steps
    (start.run steps).controller.collection = (lastListed? listings).getD [] ∧
      (listings.flatMap fun call => call.news.hops).Sublist
        ((start.run steps).world.since world).hops ∧
      ∀ call ∈ listings, (∃ w, call = .of client Controller.decodeList? "GET" "/docentes" none w) ∧
        ∀ teachers, call.listed? = some teachers ↔
          ∃ hop response, call.news.hops.getLast? = some hop ∧ hop.Brings response teachers := by
  intro start listings
  refine ⟨start.collection_run steps, start.hops_listings steps, ?_⟩
  intro call among
  exact ⟨start.eq_of_mem_listings among, fun teachers => Call.listed?_eq_some_iff⟩

end TeacherRegistry
