import TeacherRegistry.Proofs.Courses

/-!
# What the operations of the controller come to

Reading the list, saving the draft and deleting a record each come to one of a few ends. Here every
end is written out once, with the call that led to it, so that a law about an operation is a law about
its ends. What is said and asked around a call makes no requests.
-/

namespace TeacherRegistry

open Json (Value)

namespace World

/-- The journal of the second world carries on that of the first. -/
def Precedes (u v : World) : Prop :=
  ∃ news : Journal, v.journal = u.journal ++ news

theorem Silent.precedes {u v : World} (silent : u.Silent v) : u.Precedes v :=
  let ⟨news, grown, _⟩ := silent
  ⟨news, grown⟩

theorem Precedes.trans {u v w : World} (first : u.Precedes v) (second : v.Precedes w) :
    u.Precedes w := by
  obtain ⟨earlier, grown⟩ := first
  obtain ⟨later, grown'⟩ := second
  exact ⟨earlier ++ later, by rw [grown', grown, List.append_assoc]⟩

/-- What a stretch adds is what its two parts add. -/
theorem since_trans {u v w : World} (first : u.Precedes v) (second : v.Precedes w) :
    w.since u = v.since u ++ w.since v := by
  obtain ⟨earlier, grown⟩ := first
  obtain ⟨later, grown'⟩ := second
  have whole : w.journal = u.journal ++ (earlier ++ later) := by
    rw [grown', grown, List.append_assoc]
  rw [since_eq whole, since_eq grown, since_eq grown']

theorem Silent.hops_since {u v : World} (silent : u.Silent v) : (v.since u).hops = [] := by
  obtain ⟨said, grown, silent⟩ := silent
  rw [since_eq grown, silent.hops]

/-- What is done silently after a stretch adds nothing to what was heard in it. -/
theorem Precedes.hops_since {u v w : World} (stretch : u.Precedes v) (silent : v.Silent w) :
    (w.since u).hops = (v.since u).hops := by
  rw [since_trans stretch silent.precedes, Journal.hops_append, silent.hops_since, List.append_nil]

theorem silent_notify (w : World) (tone : Tone) (text : String) : w.Silent (w.notify tone text) :=
  ⟨_, rfl, rfl, rfl⟩

/-- The answer to a question depends on nothing but who answers. -/
theorem fst_ask_of_same (v w : World) (prompt : String) (same : v.confirmation = w.confirmation) :
    (v.ask prompt).1 = (w.ask prompt).1 := by
  unfold ask
  rw [same]
  cases w.confirmation with
  | always answer => rfl
  | answers rest => cases rest <;> rfl

theorem farEnd_ask (w : World) (prompt : String) : (w.ask prompt).2.farEnd = w.farEnd := by
  unfold ask
  split <;> rfl

/-- A question is recorded with its answer. -/
theorem journal_ask (w : World) (prompt : String) :
    (w.ask prompt).2.journal = w.journal ++ [.asked prompt (w.ask prompt).1] := by
  unfold ask
  split <;> rfl

end World

theorem Client.Leads.precedes {client : Client} {u v : World} (leads : client.Leads u v) :
    u.Precedes v :=
  let ⟨_, course⟩ := leads
  let ⟨news, grown, _⟩ := course.grows
  ⟨news, grown⟩

/-- The call that a request is made by. -/
def Call.of {α : Type} (client : Client) (decode : ByteArray → Option α) (method path : String)
    (body : Option String) (w : World) : Call :=
  ⟨w, (client.request decode method path body w).2⟩

section

variable {α : Type} {client : Client} {decode : ByteArray → Option α} {method path : String}
  {body : Option String} {w v : World} {result : Except TransportError (Answer α)}

theorem Call.news_of (called : client.request decode method path body w = (result, v)) :
    (Call.of client decode method path body w).news = v.since w := by
  rw [Call.of, called, Call.news]

theorem Client.precedes_of_request
    (called : client.request decode method path body w = (result, v)) : w.Precedes v := by
  have grows := client.request_grows decode method path body w
  rw [called] at grows
  exact grows

end

namespace Controller

variable (client : Client) (c : Controller) (w : World)

section

variable {α : Type} (span : Log.Span) (act : World → Effect α)

theorem controller_within : (within span act w).controller = (act (w.enter span)).controller := rfl

theorem since_within :
    (within span act w).world.since w = (act (w.enter span)).world.since (w.enter span) := rfl

end

theorem request_of_fetch {client : Client} {w v : World}
    {result : Except TransportError (List Teacher)} (fetched : fetch client w = (result, v)) :
    ∃ answer, client.request decodeList? "GET" listPath none w = (answer, v) := by
  unfold fetch at fetched
  split at fetched
  next e u called =>
    cases fetched
    exact ⟨_, called⟩
  next answer u called =>
    -- an answer without a list is a failure, but the call is the same
    split at fetched <;> cases fetched <;> exact ⟨_, called⟩

/-- What reading the list anew comes to. -/
inductive Refreshing : Effect Unit → Prop where
  | failed {e : TransportError} {v : World} (fetched : fetch client w = (.error e, v)) :
    Refreshing ⟨.error (.transport e), c, notifyFailure v loadFailure e.message⟩
  | done {teachers : List Teacher} {v : World} (fetched : fetch client w = (.ok teachers, v)) :
    Refreshing ⟨.ok (), { c with collection := teachers },
      v.log (.collectionLoaded teachers.length)⟩

theorem refreshing_refresh : Refreshing client c w (refresh client c w) := by
  unfold refresh
  split
  next fetched => exact .done fetched
  next fetched => exact .failed fetched

/-- After a change has been reported the list is read again. -/
theorem precedes_of_reload {client : Client} {c later : Controller} {u v : World}
    {event failed : Log.Event} {tone : Tone} {text : String}
    (reloaded : reload client failed c ((v.log event).notify tone text) = (later, u)) :
    v.Precedes u := by
  have leads := (((Client.Leads.refl v).log event).notify tone text).trans
    (leads_reload client failed c _)
  rw [reloaded] at leads
  exact leads.precedes

/-- What saving the draft comes to. -/
inductive Saving : Effect SaveOutcome → Prop where
  | invalid {fault : Teacher.Fault} (planned : c.plan = .error fault) :
    Saving ⟨.error (.invalid fault), c, notifyFailure w saveFailure fault.message⟩
  | refused {outcome : SaveOutcome} {method path : String} {e : TransportError} {v : World}
    (planned : c.plan = .ok (outcome, method, path))
    (called : client.request Value.ofBytes? method path (some c.draft.json) w = (.error e, v)) :
    Saving ⟨.error (.transport e), c, notifyFailure v saveFailure e.message⟩
  | accepted {outcome : SaveOutcome} {method path : String} {answer : Answer Value} {u v : World}
    {later : Controller} (planned : c.plan = .ok (outcome, method, path))
    (called : client.request Value.ofBytes? method path (some c.draft.json) w = (.ok answer, v))
    (reloaded : reload client .reloadFailedAfterSave c.reset
      ((v.log (.draftSaved outcome.label)).notify .success outcome.notice) = (later, u)) :
    Saving ⟨.ok outcome, later, u⟩

theorem saving_save : Saving client c w (save client c w) := by
  unfold save
  split
  next planned => exact .invalid planned
  next planned =>
    split
    next called => exact .refused planned called
    next called => exact .accepted planned called rfl

/-- What deleting a record comes to. -/
inductive Erasing (id : TeacherId) : Effect DeleteOutcome → Prop where
  | declined {v : World} (asked : w.ask deleteQuestion = (false, v)) :
    Erasing id ⟨.ok .declined, c, v.log .deleteDeclined⟩
  | refused {e : TransportError} {u v : World} (asked : w.ask deleteQuestion = (true, v))
    (called : client.request Value.ofBytes? "DELETE" (itemPath id) none v = (.error e, u)) :
    Erasing id ⟨.error (.transport e), c, notifyFailure u deleteFailure e.message⟩
  | accepted {answer : Answer Value} {t u v : World} {later : Controller}
    (asked : w.ask deleteQuestion = (true, v))
    (called : client.request Value.ofBytes? "DELETE" (itemPath id) none v = (.ok answer, u))
    (reloaded : reload client .reloadFailedAfterDelete c
      ((u.log .recordDeleted).notify .success deleteSuccess) = (later, t)) :
    Erasing id ⟨.ok .deleted, later, t⟩

theorem erasing_erase (id : TeacherId) :
    Erasing client c w id (eraseIfConfirmed client c id w) := by
  unfold eraseIfConfirmed
  split
  next asked => exact .declined asked
  next asked =>
    split
    next called => exact .refused asked called
    next called => exact .accepted asked called rfl

/-! ### The call that an operation begins with -/

/-- The call that saving the draft begins with, if the draft may be sent. -/
def savingCall? (client : Client) (c : Controller) (w : World) : Option Call :=
  c.plan.toOption.map fun plan =>
    .of client Value.ofBytes? plan.2.1 plan.2.2 (some c.draft.json) w

/-- The call that deleting a record begins with, if the operator agrees. -/
def erasingCall? (client : Client) (id : TeacherId) (w : World) : Option Call :=
  match w.ask deleteQuestion with
  | (false, _) => none
  | (true, v) => some (.of client Value.ofBytes? "DELETE" (itemPath id) none v)

/-- The call that reading the list consists of. -/
def loadingCall (client : Client) (w : World) : Call :=
  .of client decodeList? "GET" listPath none w

end Controller

/-! ### What a desk reports of them -/

namespace Desk

/-- The call that an operation of the controller begins with, if it makes any. -/
def opening? (desk : Desk) : Action → Option Call
  | .load => some (Controller.loadingCall desk.client (desk.world.enter .load))
  | .submit => Controller.savingCall? desk.client desk.controller
      (desk.world.enter (.submit desk.controller.editing))
  | .delete id => Controller.erasingCall? desk.client id (desk.world.enter (.delete id.display))
  | _ => none

variable {ε α : Type} {desk : Desk} {outcome : Except ε α × World} {failure : ε → Failure}
  {effect : Controller.Effect α} {report : α → Report}

private theorem ok_of_translated {result : Except ε α} {r : Report}
    (reported : (result.map report).mapError failure = .ok r) :
    ∃ value, result = .ok value ∧ report value = r := by
  cases result with
  | ok value =>
    cases reported
    exact ⟨value, rfl, rfl⟩
  | error e => cases reported

private theorem error_of_translated {result : Except ε α} {e : Failure}
    (failed : (result.map report).mapError failure = .error e) :
    ∃ given, result = .error given ∧ failure given = e := by
  cases result with
  | ok value => cases failed
  | error given =>
    cases failed
    exact ⟨given, rfl, rfl⟩

theorem ok_of_ofEffect {r : Report} (reported : (desk.ofEffect effect report).1 = .ok r) :
    ∃ value, effect.result = .ok value ∧ report value = r :=
  ok_of_translated reported

theorem error_of_ofEffect {e : Controller.Error}
    (failed : (desk.ofEffect effect report).1 = .error (.controller e)) :
    effect.result = .error e := by
  obtain ⟨given, result, same⟩ := error_of_translated failed
  cases same
  exact result

theorem ok_of_ofWorld {r : Report} (reported : (desk.ofWorld outcome failure report).1 = .ok r) :
    ∃ value, outcome.1 = .ok value ∧ report value = r :=
  ok_of_translated reported

theorem error_of_ofWorld {e : Failure}
    (failed : (desk.ofWorld outcome failure report).1 = .error e) :
    ∃ given, outcome.1 = .error given ∧ failure given = e :=
  error_of_translated failed

/-- Whether a report is about a draft that was saved or a record that was deleted or kept. -/
def Report.isOfChange : Report → Bool
  | .saved _ | .deleted _ => true
  | _ => false

/-- Only a submission reports that a draft was saved, and only a deletion that a record was deleted
or kept. -/
inductive Reported (desk : Desk) : Action → Report → Prop where
  | saved {outcome : Controller.SaveOutcome}
    (result : (desk.controller.submit desk.client desk.world).result = .ok outcome) :
    Reported desk .submit (.saved outcome)
  | deleted {id : TeacherId} {outcome : Controller.DeleteOutcome}
    (result : (desk.controller.delete desk.client id desk.world).result = .ok outcome) :
    Reported desk (.delete id) (.deleted outcome)
  | other {action : Action} {r : Report} (unrelated : r.isOfChange = false) :
    Reported desk action r

theorem reported_act {action : Action} {r : Report} (reported : (desk.act action).1 = .ok r) :
    Reported desk action r := by
  cases action with
  | submit =>
    obtain ⟨outcome, result, rfl⟩ := ok_of_ofEffect reported
    exact .saved result
  | delete id =>
    obtain ⟨outcome, result, rfl⟩ := ok_of_ofEffect reported
    exact .deleted result
  | load | beginEditById =>
    obtain ⟨_, _, rfl⟩ := ok_of_ofEffect reported
    exact .other rfl
  | login | loginAsGuest | validate | logout | isLoggedIn | user | storeGet | storeSet
  | storeRemove | request =>
    obtain ⟨_, _, rfl⟩ := ok_of_ofWorld reported
    exact .other rfl
  | updateFieldByName name value =>
    simp only [act] at reported
    split at reported
    · cases reported
      exact .other rfl
    · cases reported
  | _ =>
    cases reported
    exact .other rfl

/-- A desk at which nothing has happened yet, with a server on the same machine and an operator who
says yes to every question. -/
def sample : Desk :=
  .initial ⟨"http://127.0.0.1:8081/api", 10000, "/login", 0⟩
    { farEnd := .unreachable
      store := .memory []
      credentials := .stored
      confirmation := .always true
      expiry := .redirected
      spans := []
      journal := [] }

end Desk

end TeacherRegistry
