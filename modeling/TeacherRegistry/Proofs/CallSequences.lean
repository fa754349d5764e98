import TeacherRegistry.Proofs.Operations

/-!
# The calls of an action

An action makes no call, one call or two: after a change that was accepted the list is read again.
Here the calls of every action are written out, each with the worlds before and after it. All requests
of an action belong to its calls; around them there are only remarks and questions, except that some
actions put a session into the store or take it away when their calls are over.
-/

namespace TeacherRegistry

open Json (Value)

/-! ### Remarks and questions -/

/-- Something was said or asked, and nothing that a call goes by has changed. -/
structure World.Quiet (u v : World) : Prop where
  silent : u.Silent v
  alike : u.Alike v

namespace World

variable {u v w : World}

theorem Quiet.refl (w : World) : w.Quiet w := ⟨.refl w, .refl w⟩

theorem Quiet.trans (first : u.Quiet v) (second : v.Quiet w) : u.Quiet w :=
  ⟨first.silent.trans second.silent, first.alike.trans second.alike⟩

theorem Quiet.log (quiet : u.Quiet v) (event : Log.Event) : u.Quiet (v.log event) :=
  quiet.trans ⟨silent_log v event, alike_log v event⟩

theorem Quiet.notify (quiet : u.Quiet v) (tone : Tone) (text : String) :
    u.Quiet (v.notify tone text) :=
  quiet.trans ⟨silent_notify v tone text, ⟨rfl, rfl, rfl, rfl, rfl⟩⟩

theorem Quiet.enter (quiet : u.Quiet v) (span : Log.Span) : u.Quiet (v.enter span) :=
  quiet.trans ⟨⟨[], (List.append_nil _).symm, Journal.silent_nil⟩, ⟨rfl, rfl, rfl, rfl, rfl⟩⟩

theorem Quiet.leave (quiet : u.Quiet v) : u.Quiet v.leave :=
  quiet.trans ⟨⟨[], (List.append_nil _).symm, Journal.silent_nil⟩, ⟨rfl, rfl, rfl, rfl, rfl⟩⟩

theorem quiet_ask (w : World) (prompt : String) : w.Quiet (w.ask prompt).2 := by
  refine ⟨w.silent_ask prompt, ?_⟩
  unfold ask
  split <;> exact ⟨rfl, rfl, rfl, rfl, rfl⟩

theorem quiet_token (w : World) : w.Quiet w.token.2 :=
  ⟨w.token_aside.1, w.token_aside.2⟩

end World

/-- Calls of a client in their order, with nothing but remarks and questions around them. -/
inductive Calling (client : Client) : World → List Call → World → Prop where
  | rest {u v : World} (quiet : u.Quiet v) : Calling client u [] v
  | call {α : Type} (decode : ByteArray → Option α) (method path : String) (body : Option String)
    {u v w : World} {calls : List Call} (quiet : u.Quiet v)
    (rest : Calling client (client.request decode method path body v).2 calls w) :
    Calling client u (.of client decode method path body v :: calls) w

namespace Calling

variable {client : Client} {u v w : World} {calls : List Call}

theorem called {α : Type} {decode : ByteArray → Option α} {method path : String}
    {body : Option String} {result : Except TransportError (Answer α)} {t : World}
    (quiet : u.Quiet v) (called : client.request decode method path body v = (result, t))
    (rest : Calling client t calls w) : Calling client u (⟨v, t⟩ :: calls) w := by
  obtain rfl : (client.request decode method path body v).2 = t := by rw [called]
  exact .call decode method path body quiet rest

theorem after (quiet : u.Quiet v) (calling : Calling client v calls w) :
    Calling client u calls w := by
  cases calling with
  | rest later => exact .rest (quiet.trans later)
  | call decode method path body later rest =>
    exact .call decode method path body (quiet.trans later) rest

theorem before (calling : Calling client u calls v) (quiet : v.Quiet w) :
    Calling client u calls w := by
  induction calling with
  | rest earlier => exact .rest (earlier.trans quiet)
  | call decode method path body earlier _ ih =>
    exact .call decode method path body earlier (ih quiet)

theorem precedes (calling : Calling client u calls w) : u.Precedes w := by
  induction calling with
  | rest quiet => exact quiet.silent.precedes
  | call decode method path body quiet _ ih =>
    exact quiet.silent.precedes.trans ((client.precedes_of_request rfl).trans ih)

theorem hops_since (calling : Calling client u calls w) :
    (w.since u).hops = calls.flatMap fun call => call.news.hops := by
  induction calling with
  | rest quiet => exact quiet.silent.hops_since
  -- what is quiet in front of a call adds nothing to either side
  | @call α decode method path body u v w calls quiet rest ih =>
    have called : v.Precedes (client.request decode method path body v).2 :=
      client.request_grows decode method path body v
    rw [World.since_trans quiet.silent.precedes (called.trans rest.precedes),
      World.since_trans called rest.precedes, Journal.hops_append, Journal.hops_append,
      quiet.silent.hops_since, ih, List.nil_append]
    rfl

end Calling

/-! ### The controller -/

namespace Controller

/-- The call by which the list is read again after a change that has been accepted. -/
def reloadingCall (client : Client) (event : Log.Event) (text : String) (w : World) : Call :=
  loadingCall client (((w.log event).notify .success text).enter .load)

/-- The calls that saving the draft makes. -/
def savingCalls (client : Client) (c : Controller) (w : World) : List Call :=
  match c.plan with
  | .error _ => []
  | .ok (outcome, method, path) =>
    match client.request Value.ofBytes? method path (some c.draft.json) w with
    | (.error _, v) => [⟨w, v⟩]
    | (.ok _, v) => [⟨w, v⟩, reloadingCall client (.draftSaved outcome.label) outcome.notice v]

/-- The calls that deleting a record makes. -/
def erasingCalls (client : Client) (id : TeacherId) (w : World) : List Call :=
  match w.ask deleteQuestion with
  | (false, _) => []
  | (true, u) =>
    match client.request Value.ofBytes? "DELETE" (itemPath id) none u with
    | (.error _, v) => [⟨u, v⟩]
    | (.ok _, v) => [⟨u, v⟩, reloadingCall client .recordDeleted deleteSuccess v]

variable (client : Client) (c : Controller) (w : World)

theorem calling_within {α : Type} {span : Log.Span} {act : World → Effect α} {calls : List Call}
    (inside : Calling client (w.enter span) calls (act (w.enter span)).world) :
    Calling client w calls (within span act w).world :=
  (inside.before (World.Quiet.refl _).leave).after ((World.Quiet.refl w).enter span)

private theorem calling_refresh :
    Calling client w [loadingCall client w] (refresh client c w).world := by
  have ends := refreshing_refresh client c w
  generalize refresh client c w = effect at ends
  cases ends with
  | failed fetched =>
    obtain ⟨answer, called⟩ := request_of_fetch fetched
    rw [loadingCall, Call.of, called]
    exact .called (.refl w) called (.rest ((World.Quiet.refl _).notify .failure _))
  | done fetched =>
    obtain ⟨answer, called⟩ := request_of_fetch fetched
    rw [loadingCall, Call.of, called]
    exact .called (.refl w) called (.rest ((World.Quiet.refl _).log _))

theorem calling_load :
    Calling client w [loadingCall client (w.enter .load)] (load client c w).world :=
  calling_within client w (calling_refresh client c _)

theorem calling_reload (failed : Log.Event) :
    Calling client w [loadingCall client (w.enter .load)] (reload client failed c w).2 := by
  have loaded := calling_load client c w
  unfold reload
  split
  next later v outcome =>
    rw [outcome] at loaded
    exact loaded
  next e later v outcome =>
    rw [outcome] at loaded
    exact loaded.before ((World.Quiet.refl v).log failed)

private theorem calling_reported {v u : World} {later : Controller} {event failed : Log.Event}
    {text : String}
    (reloaded : reload client failed c ((v.log event).notify .success text) = (later, u)) :
    Calling client v [reloadingCall client event text v] u := by
  have loaded := calling_reload client c ((v.log event).notify .success text) failed
  rw [reloaded] at loaded
  exact loaded.after (((World.Quiet.refl v).log event).notify .success text)

private theorem calling_save :
    Calling client w (savingCalls client c w) (save client c w).world := by
  have ends := saving_save client c w
  generalize save client c w = effect at ends
  unfold savingCalls
  cases ends with
  | invalid planned =>
    rw [planned]
    exact .rest ((World.Quiet.refl w).notify .failure _)
  | refused planned called =>
    rw [planned]
    simp only [called]
    exact .called (.refl w) called (.rest ((World.Quiet.refl _).notify .failure _))
  | accepted planned called reloaded =>
    rw [planned]
    simp only [called]
    exact .called (.refl w) called (calling_reported client c.reset reloaded)

theorem calling_submit :
    Calling client w (savingCalls client c (w.enter (.submit c.editing)))
      (submit client c w).world :=
  calling_within client w (calling_save client c _)

private theorem calling_erase (id : TeacherId) :
    Calling client w (erasingCalls client id w) (eraseIfConfirmed client c id w).world := by
  have ends := erasing_erase client c w id
  generalize eraseIfConfirmed client c id w = effect at ends
  have asking := w.quiet_ask deleteQuestion
  unfold erasingCalls
  cases ends with
  | declined asked =>
    rw [asked] at asking ⊢
    exact .rest (asking.log .deleteDeclined)
  | refused asked called =>
    rw [asked] at asking ⊢
    simp only [called]
    exact .called asking called (.rest ((World.Quiet.refl _).notify .failure _))
  | accepted asked called reloaded =>
    rw [asked] at asking ⊢
    simp only [called]
    exact .called asking called (calling_reported client c reloaded)

theorem calling_delete (id : TeacherId) :
    Calling client w (erasingCalls client id (w.enter (.delete id.display)))
      (delete client c id w).world :=
  calling_within client w (calling_erase client c _ id)

theorem quiet_beginEditById (id : TeacherId) : w.Quiet (c.beginEditById id w).world := by
  unfold beginEditById
  split
  · exact (World.Quiet.refl w).log _
  · exact .refl w

end Controller

/-! ### The session -/

namespace Session

/-- The call that opening a session makes, as part of an operation. -/
def openingCall (client : Client) (span : Log.Span) (path body : String) (w : World) : Call :=
  .of client Value.ofBytes? "POST" path (some body) (w.enter span)

/-- The call that asks whether the token still holds. -/
def validatingCall (client : Client) (w : World) : Call :=
  .of client Value.ofBytes? "GET" validatePath none (w.enter .validate)

variable (client : Client) (w : World)

theorem silent_keep (data : Option Value) : w.Silent (keep data w).2 := by
  unfold keep
  split
  · exact .refl w
  next token profile _ =>
    have first := World.silent_apply w (w.store.set Store.tokenKey token)
    split
    next e v put =>
      rw [World.put] at put
      rw [put] at first
      exact first
    next v put =>
      rw [World.put] at put
      rw [put] at first
      have second := World.silent_apply v (v.store.set Store.userKey profile.text)
      split
      next e u put' =>
        rw [World.put] at put'
        rw [put'] at second
        exact first.trans second
      next u put' =>
        rw [World.put] at put'
        rw [put'] at second
        exact (first.trans second).trans (World.silent_log u _)

theorem calling_open (span : Log.Span) (path body : String) :
    ∃ v, Calling client w [openingCall client span path body w] v ∧
      v.Silent (within span (open? client path body) w).2 := by
  have enters := (World.Quiet.refl w).enter span
  refine ⟨_, .call Value.ofBytes? "POST" path (some body) enters (.rest (.refl _)), ?_⟩
  -- leaving the operation is seen in no journal
  show World.Silent _ (open? client path body (w.enter span)).2.leave
  refine World.Silent.trans ?_ ((World.Quiet.refl _).leave).silent
  unfold open?
  split
  next e v called =>
    rw [called]
    exact .refl v
  next answer v called =>
    rw [called]
    exact silent_keep v answer.data

theorem silent_logout : w.Silent (logout w).2 := by
  have first : w.Silent (w.remove Store.tokenKey).2 := World.silent_apply w _
  unfold logout
  split
  next e v removed =>
    rw [removed] at first
    exact first
  next v removed =>
    rw [removed] at first
    have second : v.Silent (v.remove Store.userKey).2 := World.silent_apply v _
    split
    next e u removed' =>
      rw [removed'] at second
      exact first.trans second
    next u removed' =>
      rw [removed'] at second
      exact (first.trans second).trans (World.silent_log u _)

theorem calling_validate :
    Calling client w [validatingCall client w] (validate client w).2 :=
  .call Value.ofBytes? "GET" validatePath none ((World.Quiet.refl w).enter .validate)
    (.rest (World.Quiet.refl _).leave)

end Session

/-! ### The desk -/

namespace Desk

/-- The calls that an action makes. -/
def calls (desk : Desk) : Action → List Call
  | .load => [Controller.loadingCall desk.client (desk.world.enter .load)]
  | .submit => Controller.savingCalls desk.client desk.controller
      (desk.world.enter (.submit desk.controller.editing))
  | .delete id => Controller.erasingCalls desk.client id (desk.world.enter (.delete id.display))
  | .login username password => [Session.openingCall desk.client (.login username)
      Session.loginPath (Session.loginBody username password) desk.world]
  | .loginAsGuest => [Session.openingCall desk.client .loginAsGuest Session.guestPath
      Session.guestBody desk.world]
  | .validate => [Session.validatingCall desk.client desk.world]
  | .request method path body shape =>
    [.of desk.client shape.decode? method path body desk.world]
  | _ => []

/-- Whether an action may change the session itself, and not only by what its calls come to. -/
def Action.isOfSession : Action → Bool
  | .login .. | .loginAsGuest | .logout | .storeSet .. | .storeRemove .. | .evict => true
  | _ => false

/-- Around the calls of most actions there are only remarks and questions. -/
theorem calling_act (desk : Desk) {action : Action} (other : action.isOfSession = false) :
    Calling desk.client desk.world (desk.calls action) (desk.act action).2.world := by
  cases action with
  | load =>
    simp only [act, world_ofEffect]
    exact Controller.calling_load desk.client desk.controller desk.world
  | submit =>
    simp only [act, world_ofEffect]
    exact Controller.calling_submit desk.client desk.controller desk.world
  | delete id =>
    simp only [act, world_ofEffect]
    exact Controller.calling_delete desk.client desk.controller desk.world id
  | beginEdit teacher => exact .rest ((World.Quiet.refl desk.world).log _)
  | beginEditById id =>
    simp only [act, world_ofEffect]
    exact .rest (Controller.quiet_beginEditById desk.controller desk.world id)
  | updateFieldByName name value =>
    simp only [act]
    split <;> exact .rest (.refl desk.world)
  | validate =>
    simp only [act, world_ofWorld]
    exact Session.calling_validate desk.client desk.world
  | token => exact .rest desk.world.quiet_token
  | request method path body shape =>
    simp only [act, world_ofWorld]
    exact .call shape.decode? method path body (.refl desk.world) (.rest (.refl _))
  | find | reset | toggleForm | updateField | setFilter | clearFilter =>
    exact .rest (.refl desk.world)
  | isLoggedIn | user | storeGet =>
    simp only [act, world_ofWorld]
    exact .rest (.refl desk.world)
  | login | loginAsGuest | logout | storeSet | storeRemove | evict => cases other

/-- When the calls of an action are over it sends nothing more. -/
theorem calling_then_silent (desk : Desk) (action : Action) :
    ∃ v, Calling desk.client desk.world (desk.calls action) v ∧
      v.Silent (desk.act action).2.world := by
  cases session : action.isOfSession with
  | false => exact ⟨_, calling_act desk session, .refl _⟩
  | true =>
    cases action with
    | login username password =>
      simp only [act, world_ofWorld]
      exact Session.calling_open desk.client desk.world (.login username) _ _
    | loginAsGuest =>
      simp only [act, world_ofWorld]
      exact Session.calling_open desk.client desk.world .loginAsGuest _ _
    | logout =>
      simp only [act, world_ofWorld]
      exact ⟨_, .rest (.refl _), Session.silent_logout desk.world⟩
    | storeSet key value =>
      simp only [act, world_ofWorld]
      exact ⟨_, .rest (.refl _), World.silent_apply desk.world _⟩
    | storeRemove key =>
      simp only [act, world_ofWorld]
      exact ⟨_, .rest (.refl _), World.silent_apply desk.world _⟩
    | evict => exact ⟨_, .rest (.refl _), desk.world.evict_aside.1⟩
    | _ => cases session

/-- All requests of an action belong to its calls. -/
theorem hops_act (desk : Desk) (action : Action) :
    ((desk.act action).2.world.since desk.world).hops =
      (desk.calls action).flatMap fun call => call.news.hops := by
  obtain ⟨v, calling, silent⟩ := desk.calling_then_silent action
  rw [World.since_trans calling.precedes silent.precedes, Journal.hops_append, calling.hops_since,
    silent.hops_since, List.append_nil]

/-- A desk at which a step begins, with the far end that it meets. -/
def meets (desk : Desk) (farEnd : Http.FarEnd) : Desk :=
  { desk with world := { desk.world with farEnd } }

theorem run_cons (desk : Desk) (step : Step) (rest : List Step) :
    desk.run (step :: rest) = (desk.take step).2.run rest := rfl

/-- What happens in a run happens in its first step, and then in the rest. -/
theorem since_run_cons (desk : Desk) (step : Step) (rest : List Step) :
    (desk.run (step :: rest)).world.since desk.world =
      (desk.take step).2.world.since desk.world ++
        ((desk.take step).2.run rest).world.since (desk.take step).2.world := by
  have stepped : desk.world.Precedes (desk.take step).2.world :=
    (leads_act (desk.meets step.farEnd) step.action).precedes
  rw [run_cons, World.since_trans stepped (leads_run _ rest).precedes]

/-- The requests of a run are those of its first step, and then those of the rest. -/
theorem hops_run_cons (desk : Desk) (step : Step) (rest : List Step) :
    ((desk.run (step :: rest)).world.since desk.world).hops =
      ((desk.meets step.farEnd).calls step.action).flatMap (fun call => call.news.hops) ++
        (((desk.take step).2.run rest).world.since (desk.take step).2.world).hops := by
  rw [since_run_cons, Journal.hops_append, ← hops_act (desk.meets step.farEnd) step.action]
  rfl

end Desk

end TeacherRegistry
