import TeacherRegistry.Controller
import TeacherRegistry.Session

/-!
# A token that is given for the run

Where the token is given for the run, the store is left out of everything: the client, the
controller and the validation of a session do the same whatever the store holds, and they leave it
as it is. Even when the server refuses the session it is the given token that is forgotten.
-/

namespace TeacherRegistry

open Http (Outcome)

namespace World

/-- The same world with another store. -/
def withStore (store : Store) (w : World) : World := { w with store }

@[simp] theorem log_withStore (store : Store) (w : World) (event : Log.Event) :
    (w.withStore store).log event = (w.log event).withStore store := rfl

@[simp] theorem notify_withStore (store : Store) (w : World) (tone : Tone) (text : String) :
    (w.withStore store).notify tone text = (w.notify tone text).withStore store := rfl

@[simp] theorem enter_withStore (store : Store) (w : World) (span : Log.Span) :
    (w.withStore store).enter span = (w.enter span).withStore store := rfl

/-- The token is given for the run. -/
def Given (w : World) : Prop := ∃ token, w.credentials = .fixed token

/-- What the same act comes to in two worlds that differ in their stores, the token being given for
the run: again they differ in their stores, and in nothing else. -/
structure Besides {α : Type} (store : Store) (ended other : α × World) : Prop where
  given : ended.2.Given
  same : other = (ended.1, ended.2.withStore store)

variable {α : Type} {w : World} {store : Store}

/-- Whatever comes after two such acts begins with the same result. -/
@[elab_as_elim]
theorem Besides.elim {motive : α × World → α × World → Prop} {ended other : α × World}
    (besides : Besides store ended other)
    (next : ∀ result v, v.Given → motive (result, v) (result, v.withStore store)) :
    motive ended other := by
  obtain ⟨given, rfl⟩ := besides
  exact next ended.1 ended.2 given

/-- What comes to the same with every store leaves its own as it is. -/
theorem Besides.store_eq {ended : α × World} (besides : Besides store ended ended) :
    ended.2.store = store :=
  congrArg (fun ended => ended.2.store) besides.same

theorem Given.besides (given : w.Given) (result : α) :
    Besides store (result, w) (result, w.withStore store) :=
  ⟨given, rfl⟩

theorem Given.token (given : w.Given) (store : Store) :
    Besides store w.token (w.withStore store).token := by
  obtain ⟨token, fixed⟩ := given
  have same : (w.withStore store).credentials = .fixed token := fixed
  rw [World.token, World.token, same, fixed]
  exact ⟨⟨token, fixed⟩, rfl⟩

theorem Given.evict (given : w.Given) (store : Store) :
    w.evict.Given ∧ (w.withStore store).evict = w.evict.withStore store := by
  obtain ⟨token, fixed⟩ := given
  have same : (w.withStore store).credentials = .fixed token := fixed
  rw [World.evict, World.evict, same, fixed]
  exact ⟨⟨none, rfl⟩, rfl⟩

theorem Given.expire (given : w.Given) (route : String) (store : Store) :
    (w.expire route).Given ∧
      (w.withStore store).expire route = (w.expire route).withStore store := by
  have same : (w.withStore store).expiry = w.expiry := rfl
  rw [World.expire, World.expire, same]
  cases w.expiry <;> exact ⟨given, rfl⟩

theorem Given.ask (given : w.Given) (prompt : String) (store : Store) :
    Besides store (w.ask prompt) ((w.withStore store).ask prompt) := by
  have same : (w.withStore store).confirmation = w.confirmation := rfl
  rw [World.ask, World.ask, same]
  split <;> exact ⟨given, rfl⟩

end World

/-! ### The client -/

namespace Client

open World (Besides)

variable {w : World}

theorem besides_authorize (request : Http.Request) (given : w.Given) (store : Store) :
    Besides store (authorize request w) (authorize request (w.withStore store)) := by
  unfold authorize
  refine (given.token store).elim fun token v still => ?_
  cases token with
  | none => exact ⟨still, rfl⟩
  | some text =>
    simp only
    split <;> exact ⟨still, rfl⟩

theorem besides_attempt (request : Http.Request) (given : w.Given) (store : Store) :
    Besides store (attempt request w) (attempt request (w.withStore store)) := by
  unfold attempt
  exact (besides_authorize request given store).elim fun _ _ still => ⟨still, rfl⟩

theorem besides_persist (request : Http.Request) (retries : Nat) (given : w.Given)
    (store : Store) :
    Besides store (persist request retries w) (persist request retries (w.withStore store)) := by
  induction retries generalizing w with
  | zero => exact besides_attempt request given store
  | succ retries ih =>
    rw [persist, persist]
    refine (besides_attempt request given store).elim fun outcome v still => ?_
    simp only
    split
    · exact ih still
    · exact still.besides outcome

theorem besides_guard (client : Client) (outcome : Outcome) (given : w.Given) (store : Store) :
    (client.guard outcome w).Given ∧
      client.guard outcome (w.withStore store) = (client.guard outcome w).withStore store := by
  unfold guard
  split
  next url response complete =>
    split
    · -- the session that is given up is not in the store
      have logged : (w.log (.evicting url.text client.loginRoute)).Given := given
      obtain ⟨evicted, same⟩ := logged.evict store
      obtain ⟨expired, same'⟩ := evicted.expire client.loginRoute store
      refine ⟨expired, ?_⟩
      rw [← same', ← same]
      rfl
    · exact ⟨given, rfl⟩
  · exact ⟨given, rfl⟩

theorem besides_conclude {α : Type} (client : Client) (decode : ByteArray → Option α)
    (method : String) (url : Url) (outcome : Outcome) (given : w.Given) (store : Store) :
    Besides store (client.conclude decode method url outcome w)
      (client.conclude decode method url outcome (w.withStore store)) := by
  unfold conclude
  split
  · exact ⟨given, rfl⟩
  · exact ⟨given, rfl⟩
  · split <;> exact ⟨given, rfl⟩

theorem besides_request {α : Type} (client : Client) (decode : ByteArray → Option α)
    (method path : String) (body : Option String) (given : w.Given) (store : Store) :
    Besides store (client.request decode method path body w)
      (client.request decode method path body (w.withStore store)) := by
  unfold Client.request deliver
  split
  · exact given.besides _
  next url address =>
    obtain ⟨sent, same⟩ :=
      besides_persist (Http.Request.to method url body) client.maxRetries given store
    rw [same]
    generalize persist (Http.Request.to method url body) client.maxRetries w = tried at sent
    obtain ⟨guarded, same⟩ := client.besides_guard tried.1 sent store
    simp only
    rw [same]
    exact client.besides_conclude decode method url tried.1 guarded store

end Client

/-! ### The controller -/

namespace Controller

open World (Besides)

variable {α : Type} {w : World} {store : Store}

/-- The same of an operation of the controller: it comes to worlds that differ in their stores. -/
structure Effect.Besides (store : Store) (effect other : Effect α) : Prop where
  given : effect.world.Given
  same : other = { effect with world := effect.world.withStore store }

@[elab_as_elim]
theorem Effect.Besides.elim {motive : Effect α → Effect α → Prop} {effect other : Effect α}
    (besides : effect.Besides store other)
    (next : ∀ result c v, v.Given → motive ⟨result, c, v⟩ ⟨result, c, v.withStore store⟩) :
    motive effect other := by
  obtain ⟨given, rfl⟩ := besides
  exact next effect.result effect.controller effect.world given

theorem besides_within {act : World → Effect α}
    (besides : ∀ {w : World}, w.Given → (act w).Besides store (act (w.withStore store)))
    (span : Log.Span) (given : w.Given) :
    (within span act w).Besides store (within span act (w.withStore store)) := by
  have entered : (w.enter span).Given := given
  unfold within
  rw [World.enter_withStore]
  exact (besides entered).elim fun _ _ _ still => ⟨still, rfl⟩

theorem besides_fetch (client : Client) (given : w.Given) (store : Store) :
    Besides store (fetch client w) (fetch client (w.withStore store)) := by
  unfold fetch
  refine (client.besides_request decodeList? "GET" listPath none given store).elim
    fun outcome v still => ?_
  cases outcome with
  | error e => exact still.besides _
  | ok answer =>
    simp only
    split <;> exact still.besides _

theorem besides_refresh (client : Client) (c : Controller) (given : w.Given) (store : Store) :
    (refresh client c w).Besides store (refresh client c (w.withStore store)) := by
  unfold refresh
  refine (besides_fetch client given store).elim fun outcome v still => ?_
  cases outcome <;> exact ⟨still, rfl⟩

theorem besides_load (client : Client) (c : Controller) (given : w.Given) (store : Store) :
    (load client c w).Besides store (load client c (w.withStore store)) :=
  besides_within (fun given => besides_refresh client c given store) .load given

theorem besides_reload (client : Client) (failed : Log.Event) (c : Controller) (given : w.Given)
    (store : Store) :
    Besides store (reload client failed c w) (reload client failed c (w.withStore store)) := by
  unfold reload
  refine (besides_load client c given store).elim fun result c v still => ?_
  cases result <;> exact ⟨still, rfl⟩

theorem besides_save (client : Client) (c : Controller) (given : w.Given) (store : Store) :
    (save client c w).Besides store (save client c (w.withStore store)) := by
  unfold save
  split
  · exact ⟨given, rfl⟩
  next outcome method path planned =>
    refine (client.besides_request Json.Value.ofBytes? method path (some c.draft.json) given
      store).elim fun answered v still => ?_
    cases answered with
    | error e => exact ⟨still, rfl⟩
    | ok answer =>
      have told : ((v.log (.draftSaved outcome.label)).notify .success outcome.notice).Given := still
      obtain ⟨reloaded, same⟩ := besides_reload client .reloadFailedAfterSave c.reset told store
      simp only [World.log_withStore, World.notify_withStore, same]
      generalize reload client _ _ _ = ended at reloaded
      exact ⟨reloaded, rfl⟩

theorem besides_submit (client : Client) (c : Controller) (given : w.Given) (store : Store) :
    (submit client c w).Besides store (submit client c (w.withStore store)) :=
  besides_within (fun given => besides_save client c given store) (.submit c.editing) given

theorem besides_erase (client : Client) (c : Controller) (id : TeacherId) (given : w.Given)
    (store : Store) :
    (eraseIfConfirmed client c id w).Besides store
      (eraseIfConfirmed client c id (w.withStore store)) := by
  unfold eraseIfConfirmed
  refine (given.ask deleteQuestion store).elim fun answer u asked => ?_
  cases answer with
  | false => exact ⟨asked, rfl⟩
  | true =>
    simp only
    refine (client.besides_request Json.Value.ofBytes? "DELETE" (itemPath id) none asked
      store).elim fun answered v still => ?_
    cases answered with
    | error e => exact ⟨still, rfl⟩
    | ok answer =>
      have told : ((v.log .recordDeleted).notify .success deleteSuccess).Given := still
      obtain ⟨reloaded, same⟩ := besides_reload client .reloadFailedAfterDelete c told store
      simp only [World.log_withStore, World.notify_withStore, same]
      generalize reload client _ _ _ = ended at reloaded
      exact ⟨reloaded, rfl⟩

theorem besides_delete (client : Client) (c : Controller) (id : TeacherId) (given : w.Given)
    (store : Store) :
    (delete client c id w).Besides store (delete client c id (w.withStore store)) :=
  besides_within (fun given => besides_erase client c id given store) (.delete id.display) given

theorem besides_beginEditById (c : Controller) (id : TeacherId) (given : w.Given)
    (store : Store) :
    (c.beginEditById id w).Besides store (c.beginEditById id (w.withStore store)) := by
  unfold beginEditById
  split <;> exact ⟨given, rfl⟩

end Controller

/-! ### The session -/

namespace Session

variable (client : Client) {w : World}

theorem validate_eq (w : World) :
    validate client w =
      let called := client.request Json.Value.ofBytes? "GET" validatePath none (w.enter .validate)
      (verdict called.1, called.2.leave) := by
  unfold validate within
  rfl

theorem journal_validate (w : World) :
    (validate client w).2.journal =
      (client.request Json.Value.ofBytes? "GET" validatePath none
        (w.enter .validate)).2.journal := by
  rw [validate_eq]
  generalize client.request _ _ _ _ _ = called
  rfl

theorem besides_validate (given : w.Given) (store : Store) :
    World.Besides store (validate client w) (validate client (w.withStore store)) := by
  have entered : (w.enter .validate).Given := given
  rw [validate_eq, validate_eq, World.enter_withStore]
  exact (client.besides_request Json.Value.ofBytes? "GET" validatePath none entered store).elim
    fun _ _ still => ⟨still, rfl⟩

theorem store_validate (given : w.Given) : (validate client w).2.store = w.store :=
  (besides_validate client given w.store).store_eq

end Session

end TeacherRegistry
