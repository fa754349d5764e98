import TeacherRegistry.Desk
import TeacherRegistry.Proofs.Calls

/-!
# What runs are made of

A course is a sequence of calls of one client, with other things in between. Those other things send
nothing and send nobody to log in, so all requests of a course belong to its calls. Everything that is
done with a client, its session and its controller takes such a course.
-/

namespace TeacherRegistry

/-- Something that happens in a world and is no call of a client. -/
inductive Aside : World → World → Prop where
  | enter (w : World) (span : Log.Span) : Aside w (w.enter span)
  | leave (w : World) : Aside w w.leave
  | log (w : World) (event : Log.Event) : Aside w (w.log event)
  | notify (w : World) (tone : Tone) (text : String) : Aside w (w.notify tone text)
  | ask (w : World) (prompt : String) : Aside w (w.ask prompt).2
  | put (w : World) (key value : String) : Aside w (w.put key value).2
  | remove (w : World) (key : String) : Aside w (w.remove key).2
  | token (w : World) : Aside w w.token.2
  | evict (w : World) : Aside w w.evict
  /-- The far end becomes another one. -/
  | farEnd (w : World) (farEnd : Http.FarEnd) : Aside w { w with farEnd }

/-- A call of a client: the world before it and the world after it. -/
structure Call where
  before : World
  after : World

/-- What a call has added to the journal. -/
def Call.news (call : Call) : Journal :=
  call.after.since call.before

/-- How calls of a client, in their order, lead from one world to another. -/
inductive Course (client : Client) : World → List Call → World → Prop where
  | rest (w : World) : Course client w [] w
  | aside {u v w : World} {calls : List Call} (aside : Aside u v) (rest : Course client v calls w) :
    Course client u calls w
  | call {α : Type} (decode : ByteArray → Option α) (method path : String) (body : Option String)
    {u w : World} {calls : List Call}
    (rest : Course client (client.request decode method path body u).2 calls w) :
    Course client u (⟨u, (client.request decode method path body u).2⟩ :: calls) w

variable {client : Client} {u v w : World}

/-! ### What stands between calls -/

theorem World.silent_ask (w : World) (prompt : String) : w.Silent (w.ask prompt).2 := by
  have asked : ∀ answer, Journal.Silent [.asked prompt answer] := fun _ => ⟨rfl, rfl⟩
  unfold ask
  split <;> exact ⟨_, rfl, asked _⟩

theorem Aside.silent (aside : Aside u v) : u.Silent v := by
  cases aside with
  | enter span => exact World.Silent.refl u
  | leave => exact World.Silent.refl u
  | log event => exact World.silent_log u event
  | notify tone text => exact ⟨[.notice tone text], rfl, rfl, rfl⟩
  | ask prompt => exact World.silent_ask u prompt
  | put key value => exact World.silent_apply u _
  | remove key => exact World.silent_apply u _
  | token => exact u.token_aside.1
  | evict => exact (World.evict_aside u).1
  | farEnd farEnd => exact World.Silent.refl u

theorem Aside.guarded (aside : Aside u v) (guarded : u.Guarded) : v.Guarded := by
  have changed : ∀ change : Store.Change, change.store.Serves → (u.apply change).2.Guarded :=
    fun _ serves => ⟨guarded.stored, serves⟩
  cases aside with
  | enter span => exact ⟨guarded.stored, guarded.serves⟩
  | leave => exact ⟨guarded.stored, guarded.serves⟩
  | log event => exact guarded.alike (World.alike_log u event)
  | notify tone text => exact ⟨guarded.stored, guarded.serves⟩
  | ask prompt =>
    unfold World.ask
    split <;> exact ⟨guarded.stored, guarded.serves⟩
  | put key value =>
    apply changed
    -- a store that cannot be understood is left as it is
    rcases guarded.serves.entries_cases with readable | ⟨corrupt, _⟩
    · exact (Store.set_leaves guarded.serves readable key value).serves
    · rw [Store.set_of_error corrupt]
      exact guarded.serves
  | remove key => exact changed _ (Store.remove_leaves guarded.serves key _).serves
  | token => exact guarded.alike u.token_aside.2
  | evict => exact (World.evict_of_guarded guarded).1
  | farEnd farEnd => exact ⟨guarded.stored, guarded.serves⟩

theorem Aside.expiry (aside : Aside u v) : v.expiry = u.expiry := by
  cases aside with
  | ask prompt =>
    unfold World.ask
    split <;> rfl
  | token => exact u.token_aside.2.expiry
  | evict => exact (World.evict_aside u).2
  | _ => rfl

/-! ### Courses -/

theorem Client.request_grows {α : Type} (client : Client) (decode : ByteArray → Option α)
    (method path : String) (body : Option String) (w : World) :
    ∃ news : Journal, (client.request decode method path body w).2.journal = w.journal ++ news := by
  cases address : client.urlFor path with
  | error e =>
    -- there is nowhere to send the request
    exact ⟨[], by simp only [Client.request, address, List.append_nil]⟩
  | ok url =>
    obtain ⟨news, proceeds⟩ := client.request_proceeds decode method body w address
    exact ⟨news, proceeds.grown⟩

/-- The requests of a course are those of its calls, and so are the redirections. -/
theorem Course.grows {calls : List Call} (course : Course client u calls w) :
    ∃ news : Journal, w.journal = u.journal ++ news ∧
      news.hops = calls.flatMap (fun call => call.news.hops) ∧
      news.redirects = calls.flatMap (fun call => call.news.redirects) := by
  induction course with
  | rest w => exact ⟨[], (List.append_nil _).symm, rfl, rfl⟩
  | aside aside _ ih =>
    obtain ⟨said, grown, silent⟩ := aside.silent
    obtain ⟨news, grown', hops, redirects⟩ := ih
    refine ⟨said ++ news, by rw [grown', grown, List.append_assoc], ?_, ?_⟩
    -- what stands between calls adds nothing to either side
    · rw [Journal.hops_append, silent.hops, hops, List.nil_append]
    · rw [Journal.redirects_append, silent.redirects, redirects, List.nil_append]
  | @call α decode method path body u w calls _ ih =>
    obtain ⟨first, grown⟩ := client.request_grows decode method path body u
    obtain ⟨news, grown', hops, redirects⟩ := ih
    refine ⟨first ++ news, by rw [grown', grown, List.append_assoc], ?_, ?_⟩
    · rw [Journal.hops_append, hops, List.flatMap_cons, Call.news, World.since_eq grown]
    · rw [Journal.redirects_append, redirects, List.flatMap_cons, Call.news, World.since_eq grown]

theorem Course.append {earlier later : List Call} (first : Course client u earlier v)
    (second : Course client v later w) : Course client u (earlier ++ later) w := by
  induction first with
  | rest w => exact second
  | aside aside _ ih => exact .aside aside (ih second)
  | call decode method path body _ ih => exact .call decode method path body (ih second)

def Client.Leads (client : Client) (u w : World) : Prop :=
  ∃ calls, Course client u calls w

namespace Client.Leads

theorem refl (w : World) : client.Leads w w := ⟨[], .rest w⟩

theorem trans (first : client.Leads u v) (second : client.Leads v w) : client.Leads u w := by
  obtain ⟨earlier, course⟩ := first
  obtain ⟨later, course'⟩ := second
  exact ⟨earlier ++ later, course.append course'⟩

theorem aside (client : Client) (aside : Aside u v) : client.Leads u v := ⟨[], .aside aside (.rest v)⟩

theorem log (leads : client.Leads u v) (event : Log.Event) : client.Leads u (v.log event) :=
  leads.trans (aside client (.log v event))

theorem notify (leads : client.Leads u v) (tone : Tone) (text : String) :
    client.Leads u (v.notify tone text) :=
  leads.trans (aside client (.notify v tone text))

theorem request {α : Type} (client : Client) (decode : ByteArray → Option α)
    (method path : String) (body : Option String) (w : World) :
    client.Leads w (client.request decode method path body w).2 :=
  ⟨_, .call decode method path body (.rest _)⟩

end Client.Leads

/-! ### The session -/

namespace Session

private theorem leads_keep (client : Client) (data : Option Json.Value) (w : World) :
    client.Leads w (keep data w).2 := by
  -- the token is put first, and the profile only if that went through
  unfold keep
  split
  · exact .refl w
  next token profile _ =>
    have first := Client.Leads.aside client (.put w Store.tokenKey token)
    split
    next e v put =>
      rw [put] at first
      exact first
    next v put =>
      rw [put] at first
      have second := Client.Leads.aside client (.put v Store.userKey profile.text)
      split
      next e u put' =>
        rw [put'] at second
        exact first.trans second
      next u put' =>
        rw [put'] at second
        exact (first.trans second).log .sessionStored

private theorem leads_open (client : Client) (path body : String) (w : World) :
    client.Leads w (open? client path body w).2 := by
  have called := Client.Leads.request client Json.Value.ofBytes? "POST" path (some body) w
  unfold open?
  split
  next e v outcome =>
    rw [outcome] at called
    exact called
  next answer v outcome =>
    rw [outcome] at called
    exact called.trans (leads_keep client answer.data v)

private theorem leads_within {α : Type} {span : Log.Span} {act : World → α × World}
    (inside : client.Leads (w.enter span) (act (w.enter span)).2) :
    client.Leads w (within span act w).2 :=
  ((Client.Leads.aside client (.enter w span)).trans inside).trans (.aside client (.leave _))

theorem leads_login (client : Client) (username password : String) (w : World) :
    client.Leads w (login client username password w).2 :=
  leads_within (leads_open client loginPath _ _)

theorem leads_loginAsGuest (client : Client) (w : World) :
    client.Leads w (loginAsGuest client w).2 :=
  leads_within (leads_open client guestPath _ _)

theorem leads_validate (client : Client) (w : World) :
    client.Leads w (validate client w).2 :=
  leads_within (.request client Json.Value.ofBytes? "GET" validatePath none (w.enter .validate))

theorem leads_logout (client : Client) (w : World) : client.Leads w (logout w).2 := by
  have first := Client.Leads.aside client (.remove w Store.tokenKey)
  unfold logout
  split
  next e v removed =>
    rw [removed] at first
    exact first
  next v removed =>
    rw [removed] at first
    have second := Client.Leads.aside client (.remove v Store.userKey)
    split
    next e u removed' =>
      rw [removed'] at second
      exact first.trans second
    next u removed' =>
      rw [removed'] at second
      exact (first.trans second).log .sessionCleared

end Session

/-! ### The controller -/

namespace Controller

private theorem leads_within {α : Type} {span : Log.Span} {act : World → Effect α}
    (inside : client.Leads (w.enter span) (act (w.enter span)).world) :
    client.Leads w (within span act w).world :=
  ((Client.Leads.aside client (.enter w span)).trans inside).trans (.aside client (.leave _))

private theorem leads_fetch (client : Client) (w : World) :
    client.Leads w (fetch client w).2 := by
  have called := Client.Leads.request client decodeList? "GET" listPath none w
  unfold fetch
  split
  next e v outcome =>
    rw [outcome] at called
    exact called
  next answer v outcome =>
    rw [outcome] at called
    split <;> exact called

private theorem leads_refresh (client : Client) (c : Controller) (w : World) :
    client.Leads w (refresh client c w).world := by
  have fetched := leads_fetch client w
  unfold refresh
  split
  next teachers v outcome =>
    rw [outcome] at fetched
    exact fetched.log (.collectionLoaded teachers.length)
  next e v outcome =>
    rw [outcome] at fetched
    exact fetched.notify .failure _

theorem leads_load (client : Client) (c : Controller) (w : World) :
    client.Leads w (load client c w).world :=
  leads_within (leads_refresh client c _)

theorem leads_reload (client : Client) (failed : Log.Event) (c : Controller) (w : World) :
    client.Leads w (reload client failed c w).2 := by
  have loaded := leads_load client c w
  unfold reload
  split
  next later v outcome =>
    rw [outcome] at loaded
    exact loaded
  next e later v outcome =>
    rw [outcome] at loaded
    exact loaded.log failed

private theorem leads_save (client : Client) (c : Controller) (w : World) :
    client.Leads w (save client c w).world := by
  unfold save
  split
  · exact (Client.Leads.refl w).notify .failure _
  next outcome method path _ =>
    have called := Client.Leads.request client Json.Value.ofBytes? method path (some c.draft.json) w
    split
    next e v answered =>
      rw [answered] at called
      exact called.notify .failure _
    next answer v answered =>
      rw [answered] at called
      -- the reload is a second call of the same operation
      exact ((called.log _).notify .success _).trans (leads_reload client _ c.reset _)

theorem leads_submit (client : Client) (c : Controller) (w : World) :
    client.Leads w (submit client c w).world :=
  leads_within (leads_save client c _)

private theorem leads_erase (client : Client) (c : Controller) (id : TeacherId) (w : World) :
    client.Leads w (eraseIfConfirmed client c id w).world := by
  have asked := Client.Leads.aside client (.ask w deleteQuestion)
  unfold eraseIfConfirmed
  split
  next v answer =>
    rw [answer] at asked
    exact asked.log .deleteDeclined
  next v answer =>
    rw [answer] at asked
    have called := Client.Leads.request client Json.Value.ofBytes? "DELETE" (itemPath id) none v
    split
    next e u answered =>
      rw [answered] at called
      exact (asked.trans called).notify .failure _
    next reply u answered =>
      rw [answered] at called
      exact (((asked.trans called).log _).notify .success _).trans (leads_reload client _ c _)

theorem leads_delete (client : Client) (c : Controller) (id : TeacherId) (w : World) :
    client.Leads w (delete client c id w).world :=
  leads_within (leads_erase client c id _)

theorem leads_beginEditById (client : Client) (c : Controller) (id : TeacherId) (w : World) :
    client.Leads w (c.beginEditById id w).world := by
  unfold beginEditById
  split
  · exact (Client.Leads.refl w).log _
  · exact .refl w

end Controller

/-! ### Runs -/

namespace Desk

theorem client_act (desk : Desk) (action : Action) : (desk.act action).2.client = desk.client := by
  cases action with
  | updateFieldByName name value =>
    unfold act
    simp only
    split <;> rfl
  | _ => rfl

theorem leads_act (desk : Desk) (action : Action) :
    desk.client.Leads desk.world (desk.act action).2.world := by
  cases action with
  | load =>
    simp only [act, world_ofEffect]
    exact Controller.leads_load desk.client desk.controller desk.world
  | submit =>
    simp only [act, world_ofEffect]
    exact Controller.leads_submit desk.client desk.controller desk.world
  | delete id =>
    simp only [act, world_ofEffect]
    exact Controller.leads_delete desk.client desk.controller id desk.world
  | beginEdit teacher => exact (Client.Leads.refl desk.world).log _
  | beginEditById id =>
    simp only [act, world_ofEffect]
    exact Controller.leads_beginEditById desk.client desk.controller id desk.world
  | updateFieldByName name value =>
    unfold act
    simp only
    split <;> exact .refl desk.world
  | login username password =>
    simp only [act, world_ofWorld]
    exact Session.leads_login desk.client username password desk.world
  | loginAsGuest =>
    simp only [act, world_ofWorld]
    exact Session.leads_loginAsGuest desk.client desk.world
  | validate =>
    simp only [act, world_ofWorld]
    exact Session.leads_validate desk.client desk.world
  | logout =>
    simp only [act, world_ofWorld]
    exact Session.leads_logout desk.client desk.world
  | storeSet key value =>
    simp only [act, world_ofWorld]
    exact .aside desk.client (.put desk.world key value)
  | storeRemove key =>
    simp only [act, world_ofWorld]
    exact .aside desk.client (.remove desk.world key)
  | token => exact .aside desk.client (.token desk.world)
  | evict => exact .aside desk.client (.evict desk.world)
  | request method path body shape =>
    simp only [act, world_ofWorld]
    exact .request desk.client shape.decode? method path body desk.world
  | _ => exact .refl desk.world

theorem client_run (desk : Desk) (steps : List Step) : (desk.run steps).client = desk.client := by
  induction steps generalizing desk with
  | nil => rfl
  | cons step rest ih =>
    rw [run, List.foldl_cons, ← run, ih]
    exact client_act _ step.action

theorem leads_run (desk : Desk) (steps : List Step) :
    desk.client.Leads desk.world (desk.run steps).world := by
  -- each step meets a new far end before its action; the client stays
  induction steps generalizing desk with
  | nil => exact .refl desk.world
  | cons step rest ih =>
    have first : desk.client.Leads desk.world (desk.take step).2.world :=
      (Client.Leads.aside desk.client (.farEnd desk.world step.farEnd)).trans
        (leads_act { desk with world := { desk.world with farEnd := step.farEnd } } step.action)
    have same : (desk.take step).2.client = desk.client := client_act _ step.action
    have second := ih (desk.take step).2
    rw [same] at second
    exact first.trans second

end Desk

end TeacherRegistry
