import TeacherRegistry.Probe
import TeacherRegistry.Proofs.Eviction
import TeacherRegistry.Proofs.SingleReplies

/-!
# Where a probe stands

Where a probe stands is known by the requests it has made and the replies to them: these replies are
the first ones of the script, the far end has the others still in store, and if one of them refused
the session then the operator has been sent to log in. Every operation that a probe is made of leads
from such a stage to another one, and says which requests come in between.
-/

namespace TeacherRegistry

open Http (FarEnd Hop Reply)
open TransportError (unauthorized)

/-- The replies to so many requests in turn. -/
def Http.FarEnd.foretold (replies : List Reply) (count : Nat) : List Reply :=
  (List.range count).map fun i => upcoming (replies.drop i)

namespace Http.FarEnd

theorem foretold_succ (replies : List Reply) (count : Nat) :
    foretold replies (count + 1) = foretold replies count ++ [upcoming (replies.drop count)] := by
  simp [foretold, List.range_succ]

/-- A script that is long enough tells its first replies. -/
theorem foretold_eq_take {replies : List Reply} {count : Nat} (enough : count ≤ replies.length) :
    foretold replies count = replies.take count := by
  induction count with
  | zero => rfl
  | succ count ih =>
    have more : count < replies.length := by omega
    rw [foretold_succ, ih (by omega), List.take_succ_eq_append_getElem more,
      List.drop_eq_getElem_cons more]
    rfl

/-- After the last reply of a script there is nothing but refusals. -/
theorem upcoming_drop_of_ended {replies : List Reply} {count : Nat}
    (ended : replies.length ≤ count) : upcoming (replies.drop count) = .answer notFound := by
  rw [List.drop_eq_nil_of_le ended]
  rfl

end Http.FarEnd

namespace Probe

/-- The world of a probe that has made these requests, which got these replies. -/
structure Stage (replies : List Reply) (hops : List Hop) (w : World) : Prop where
  made : w.journal.hops = hops
  heard : hops.map Hop.reply = FarEnd.foretold replies hops.length
  farEnd : w.farEnd = .script (replies.drop hops.length)
  guarded : w.Guarded
  expiry : w.expiry = .redirected
  watched : w.journal.redirects = [] → ∀ hop ∈ hops, hop.reply.status? ≠ some unauthorized

namespace Stage

variable {replies : List Reply} {hops : List Hop} {w v : World}

/-! ### What stands between the requests -/

theorem silent (stage : Stage replies hops w) (silent : w.Silent v) (farEnd : v.farEnd = w.farEnd)
    (guarded : v.Guarded) (expiry : v.expiry = w.expiry) : Stage replies hops v := by
  obtain ⟨said, grown, silent⟩ := silent
  constructor
  · rw [grown, Journal.hops_append, silent.hops, List.append_nil, stage.made]
  · exact stage.heard
  · rw [farEnd, stage.farEnd]
  · exact guarded
  · rw [expiry, stage.expiry]
  · intro nobody
    apply stage.watched
    rw [grown, Journal.redirects_append, silent.redirects, List.append_nil] at nobody
    exact nobody

theorem aside (stage : Stage replies hops w) (aside : Aside w v) (farEnd : v.farEnd = w.farEnd) :
    Stage replies hops v :=
  stage.silent aside.silent farEnd (aside.guarded stage.guarded) aside.expiry

variable (stage : Stage replies hops w)

include stage

theorem enter (span : Log.Span) : Stage replies hops (w.enter span) :=
  stage.aside (.enter w span) rfl

theorem leave : Stage replies hops w.leave :=
  stage.aside (.leave w) rfl

theorem log (event : Log.Event) : Stage replies hops (w.log event) :=
  stage.aside (.log w event) rfl

theorem notify (tone : Tone) (text : String) : Stage replies hops (w.notify tone text) :=
  stage.aside (.notify w tone text) rfl

theorem print (line : String) : Stage replies hops (w.print line) :=
  stage.silent ⟨[.printed line], rfl, rfl, rfl⟩ rfl ⟨stage.guarded.stored, stage.guarded.serves⟩ rfl

theorem ask (prompt : String) : Stage replies hops (w.ask prompt).2 :=
  stage.aside (.ask w prompt) (w.farEnd_ask prompt)

theorem put {key value : String} {outcome : Except Store.Error Unit}
    (put : w.put key value = (outcome, v)) : Stage replies hops v := by
  have later := stage.aside (.put w key value) rfl
  rw [put] at later
  exact later

theorem remove {key : String} {outcome : Except Store.Error Unit}
    (removed : w.remove key = (outcome, v)) : Stage replies hops v := by
  have later := stage.aside (.remove w key) rfl
  rw [removed] at later
  exact later

theorem keep (data : Option Json.Value) : Stage replies hops (Session.keep data w).2 := by
  unfold Session.keep
  split
  · exact stage
  · split
    next put => exact stage.put put
    next put =>
      -- the profile is put only if the token was
      split
      next put' => exact (stage.put put).put put'
      next put' => exact ((stage.put put).put put').log .sessionStored

theorem logout : Stage replies hops (Session.logout w).2 := by
  unfold Session.logout
  split
  next removed => exact stage.remove removed
  next removed =>
    split
    next removed' => exact (stage.remove removed).remove removed'
    next removed' => exact ((stage.remove removed).remove removed').log .sessionCleared

/-! ### Requests -/

theorem direct (direct : (FarEnd.script replies).IsDirect) : w.farEnd.IsDirect := by
  rw [stage.farEnd]
  exact direct.drop hops.length

variable {client : Client} {α : Type} {decode : ByteArray → Option α} {method path : String}
  {body : Option String} {result : Except TransportError (Answer α)}

/-- One request is one more reply heard. -/
theorem call (once : client.maxRetries = 0)
    (called : client.request decode method path body w = (result, v)) {hop : Hop}
    (sent : (v.since w).hops = [hop]) : Stage replies (hops ++ [hop]) v := by
  have next := Client.next_of_request once called sent
  rw [stage.farEnd, FarEnd.next_script] at next
  obtain ⟨spent, grown', _, left⟩ := Client.spends_of_request called
  obtain ⟨news, grown, treats⟩ := client.request_treats decode method path body stage.guarded
  rw [called] at grown treats
  rw [World.since_eq grown'] at sent
  obtain rfl : news = spent := (World.since_eq grown).symm.trans (World.since_eq grown')
  constructor
  · rw [grown, Journal.hops_append, stage.made, sent]
  · rw [List.map_append, List.length_append, stage.heard, List.length_singleton,
      FarEnd.foretold_succ, Option.some.inj next]
    rfl
  · rw [left, sent, stage.farEnd, List.length_append]
    simp [FarEnd.drop]
  · exact treats.guarded
  · exact treats.expiry.trans stage.expiry
  · intro nobody among
    rw [grown, Journal.redirects_append, List.append_eq_nil_iff] at nobody
    -- a refusal would have sent the operator to log in
    have accepted : hop.reply.status? ≠ some unauthorized := by
      intro refused
      have final : Http.finalStatus? news.hops = some unauthorized := by
        rw [sent]
        exact refused
      have told := treats.expired final stage.expiry
      rw [nobody.2] at told
      cases told
    simp only [List.mem_append, List.mem_singleton]
    rintro (earlier | rfl)
    · exact stage.watched nobody.1 _ earlier
    · exact accepted

variable (direct : (FarEnd.script replies).IsDirect) (once : client.maxRetries = 0)

include direct once

/-- A request that was answered has been made. -/
theorem answered {answer : Answer α}
    (called : client.request decode method path body w = (.ok answer, v)) :
    ∃ hop, hop.request.Asks client method path body ∧ Stage replies (hops ++ [hop]) v := by
  have single := Client.single_of_answered (stage.direct direct) once called
  obtain ⟨hop, sent, asks⟩ := single.hops
  exact ⟨hop, asks, stage.call once called sent⟩

/-! ### The session -/

theorem opened {span : Log.Span} {path body : String} {profile : Json.Value}
    (opened : (Session.within span (Session.open? client path body) w).1 = .ok profile) :
    ∃ hop, hop.request.Asks client "POST" path (some body) ∧
      Stage replies (hops ++ [hop])
        (Session.within span (Session.open? client path body) w).2 := by
  have entered := stage.enter span
  unfold Session.within Session.open? at *
  simp only at opened ⊢
  split at opened
  · cases opened
  next answer v called =>
    obtain ⟨hop, asks, later⟩ := entered.answered direct once called
    exact ⟨hop, asks, (later.keep answer.data).leave⟩

theorem validated (held : (Session.validate client w).1 = .ok true) :
    ∃ hop, hop.request.Asks client "GET" Session.validatePath none ∧
      Stage replies (hops ++ [hop]) (Session.validate client w).2 := by
  have entered := stage.enter .validate
  unfold Session.validate Session.within at *
  simp only at held ⊢
  cases called : client.request Json.Value.ofBytes? "GET" Session.validatePath none
      (w.enter .validate) with
  | mk result v =>
    rw [called] at held
    cases result with
    | error e => cases e <;> cases held
    | ok answer =>
      obtain ⟨hop, asks, later⟩ := entered.answered direct once called
      exact ⟨hop, asks, later.leave⟩

/-! ### The controller -/

variable (c : Controller)

private theorem fetched (reaches : client.Reaches Controller.listPath w.farEnd)
    {result : Except TransportError (List Teacher)}
    (fetched : Controller.fetch client w = (result, v)) :
    ∃ hop, hop.request.Asks client "GET" Controller.listPath none ∧
      Stage replies (hops ++ [hop]) v ∧ hop.listed? = result.toOption := by
  obtain ⟨hop, sent, asks, listed⟩ :=
    Controller.hop_of_fetch (stage.direct direct) once reaches fetched
  obtain ⟨answer, called⟩ := Controller.request_of_fetch fetched
  exact ⟨hop, asks, stage.call once called sent, listed⟩

/-- The list is requested once, and taken over if there is one in the reply. -/
private theorem refresh (reaches : client.Reaches Controller.listPath w.farEnd) :
    ∃ hop, hop.request.Asks client "GET" Controller.listPath none ∧
      Stage replies (hops ++ [hop]) (Controller.refresh client c w).world ∧
      (Controller.refresh client c w).result.toOption = hop.listed?.map (fun _ => ()) ∧
      (Controller.refresh client c w).controller =
        { c with collection := hop.listed?.getD c.collection } := by
  have ends := Controller.refreshing_refresh client c w
  generalize Controller.refresh client c w = effect at ends
  cases ends with
  | failed fetched =>
    obtain ⟨hop, asks, later, listed⟩ := stage.fetched direct once reaches fetched
    exact ⟨hop, asks, later.notify .failure _, by simp [listed, Except.toOption]⟩
  | done fetched =>
    obtain ⟨hop, asks, later, listed⟩ := stage.fetched direct once reaches fetched
    exact ⟨hop, asks, later.log _, by simp [listed, Except.toOption]⟩

private theorem load (reaches : client.Reaches Controller.listPath w.farEnd) :
    ∃ hop, hop.request.Asks client "GET" Controller.listPath none ∧
      Stage replies (hops ++ [hop]) (Controller.load client c w).world ∧
      (Controller.load client c w).result.toOption = hop.listed?.map (fun _ => ()) ∧
      (Controller.load client c w).controller =
        { c with collection := hop.listed?.getD c.collection } := by
  obtain ⟨hop, asks, later, result, controller⟩ :=
    (stage.enter .load).refresh direct once c reaches
  unfold Controller.load Controller.within
  simp only
  exact ⟨hop, asks, later.leave, result, controller⟩

/-- A list that was read has been requested. -/
private theorem reaches_of_loaded (loaded : (Controller.load client c w).result = .ok ()) :
    client.Reaches Controller.listPath w.farEnd := by
  have ends := Controller.refreshing_refresh client c (w.enter .load)
  unfold Controller.load Controller.within at loaded
  simp only at loaded
  generalize Controller.refresh client c (w.enter .load) = effect at ends loaded
  cases ends with
  | failed fetched => cases loaded
  | @done teachers v fetched =>
    obtain ⟨answer, called⟩ := Controller.request_of_fetch fetched
    rcases Client.hops_of_direct ((stage.enter .load).direct direct) once called with
      ⟨reaches, _⟩ | ⟨_, none⟩
    · exact reaches
    · -- without a request there is no list
      have listed := Controller.listed?_of_fetch fetched
      rw [Call.listed?, Controller.loadingCall, Call.news_of called, none] at listed
      cases listed

theorem loaded (loaded : (Controller.load client c w).result = .ok ()) :
    ∃ hop teachers, hop.request.Asks client "GET" Controller.listPath none ∧
      hop.listed? = some teachers ∧
      Stage replies (hops ++ [hop]) (Controller.load client c w).world ∧
      (Controller.load client c w).controller = { c with collection := teachers } := by
  have reaches := stage.reaches_of_loaded direct once c loaded
  obtain ⟨hop, asks, later, result, controller⟩ := stage.load direct once c reaches
  rw [loaded] at result
  cases listed : hop.listed? with
  | none =>
    rw [listed] at result
    cases result
  | some teachers =>
    rw [listed] at controller
    exact ⟨hop, teachers, asks, listed, later, controller⟩

private theorem reload (reaches : client.Reaches Controller.listPath w.farEnd)
    (failed : Log.Event) :
    ∃ hop, hop.request.Asks client "GET" Controller.listPath none ∧
      Stage replies (hops ++ [hop]) (Controller.reload client failed c w).2 ∧
      (Controller.reload client failed c w).1 =
        { c with collection := hop.listed?.getD c.collection } := by
  obtain ⟨hop, asks, later, _, controller⟩ := stage.load direct once c reaches
  unfold Controller.reload
  split
  next after v outcome =>
    rw [outcome] at later controller
    exact ⟨hop, asks, later, controller⟩
  next e after v outcome =>
    rw [outcome] at later controller
    exact ⟨hop, asks, later.log failed, controller⟩

/-- A change that was accepted is two requests: where a record can be requested, the list can be. -/
private theorem change (ofRegistry : Controller.IsRegistryPath path) {answer : Answer α}
    (called : client.request decode method path body w = (.ok answer, v))
    {later : Controller} {u : World} {event failed : Log.Event} {text : String}
    (reloaded : Controller.reload client failed c ((v.log event).notify .success text) =
      (later, u)) :
    ∃ change again, change.request.Asks client method path body ∧
      again.request.Asks client "GET" Controller.listPath none ∧
      Stage replies (hops ++ [change, again]) u ∧
      later = { c with collection := again.listed?.getD c.collection } := by
  have single := Client.single_of_answered (stage.direct direct) once called
  obtain ⟨change, sent, asks⟩ := single.hops
  obtain ⟨url, address, sendable, here⟩ := single.reaches
  obtain ⟨list, address', sendable'⟩ := Client.sendable_list ofRegistry address sendable
  have told := ((stage.call once called sent).log event).notify .success text
  obtain ⟨again, asks', stage', controller⟩ :=
    told.reload direct once c ⟨list, address', sendable', here⟩ failed
  rw [reloaded] at stage' controller
  rw [List.append_assoc] at stage'
  exact ⟨change, again, asks, asks', stage', controller⟩

theorem submitted {outcome : Controller.SaveOutcome}
    (saved : (Controller.submit client c w).result = .ok outcome) :
    ∃ path change again, c.plan = .ok (outcome, outcome.method, path) ∧
      change.request.Asks client outcome.method path (some c.draft.json) ∧
      again.request.Asks client "GET" Controller.listPath none ∧
      Stage replies (hops ++ [change, again]) (Controller.submit client c w).world ∧
      (Controller.submit client c w).controller =
        { c.reset with collection := again.listed?.getD c.collection } := by
  have entered := stage.enter (.submit c.editing)
  have ends := Controller.saving_save client c (w.enter (.submit c.editing))
  unfold Controller.submit Controller.within at *
  simp only at saved ⊢
  generalize Controller.save client c (w.enter (.submit c.editing)) = effect at ends saved
  cases ends with
  | invalid planned => cases saved
  | refused planned called => cases saved
  | @accepted _ method path answer u v later planned called reloaded =>
    cases saved
    obtain rfl := Controller.method_of_plan planned
    obtain ⟨change, again, asks, asks', stage', controller⟩ := entered.change direct once c.reset
      (Controller.registryPath_of_plan planned) called reloaded
    exact ⟨path, change, again, planned, asks, asks', stage'.leave, controller⟩

theorem deleted {id : TeacherId}
    (deleted : (Controller.delete client c id w).result = .ok .deleted) :
    ∃ change again, change.request.Asks client "DELETE" (Controller.itemPath id) none ∧
      again.request.Asks client "GET" Controller.listPath none ∧
      Stage replies (hops ++ [change, again]) (Controller.delete client c id w).world ∧
      (Controller.delete client c id w).controller =
        { c with collection := again.listed?.getD c.collection } := by
  have asked := (stage.enter (.delete id.display)).ask Controller.deleteQuestion
  have ends := Controller.erasing_erase client c (w.enter (.delete id.display)) id
  unfold Controller.delete Controller.within at *
  simp only at deleted ⊢
  generalize Controller.eraseIfConfirmed client c id (w.enter (.delete id.display)) = effect
    at ends deleted
  cases ends with
  | declined answer => cases deleted
  | refused answer called => cases deleted
  | @accepted reply t u v later answer called reloaded =>
    rw [answer] at asked
    obtain ⟨change, again, asks, asks', stage', controller⟩ := asked.change direct once c
      (Or.inr ⟨id, rfl⟩) called reloaded
    exact ⟨change, again, asks, asks', stage'.leave, controller⟩

end Stage

end Probe

end TeacherRegistry
