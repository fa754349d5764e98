import TeacherRegistry.Proofs.CallSequences
import TeacherRegistry.Proofs.Retries

/-!
# Neither the history nor the search term is looked at

What has happened before is told to nobody who acts at a desk, and neither is the search term. So the
same action at a desk with a longer history and another term comes to the same, and leaves a desk
behind that differs from the first in its history and its term only.
-/

namespace TeacherRegistry

open Json (Value)

namespace World

variable (earlier : Journal) (w : World)

@[simp] theorem confirmation_behind : (w.behind earlier).confirmation = w.confirmation := rfl

@[simp] theorem record_behind (entry : Entry) :
    (w.behind earlier).record entry = (w.record entry).behind earlier :=
  append_behind earlier w [entry]

@[simp] theorem notify_behind (tone : Tone) (text : String) :
    (w.behind earlier).notify tone text = (w.notify tone text).behind earlier :=
  record_behind earlier w _

@[simp] theorem enter_behind (span : Log.Span) :
    (w.behind earlier).enter span = (w.enter span).behind earlier := rfl

@[simp] theorem leave_behind : (w.behind earlier).leave = w.leave.behind earlier := rfl

theorem put_behind (key value : String) :
    (w.behind earlier).put key value =
      ((w.put key value).1, (w.put key value).2.behind earlier) :=
  congrArg (Prod.mk _) (append_behind earlier { w with store := (w.store.set key value).store } _)

theorem ask_behind (prompt : String) :
    (w.behind earlier).ask prompt = ((w.ask prompt).1, (w.ask prompt).2.behind earlier) := by
  unfold ask
  simp only [confirmation_behind, record_behind]
  split
  · rfl
  · rfl
  · exact congrArg (Prod.mk _) (record_behind earlier { w with confirmation := _ } _)

theorem journal_behind : (w.behind earlier).journal = earlier ++ w.journal := rfl

end World

/-! ### The session -/

namespace Session

variable (client : Client) (earlier : Journal) (w : World)

theorem keep_behind (data : Option Value) :
    keep data (w.behind earlier) = ((keep data w).1, (keep data w).2.behind earlier) := by
  unfold keep
  cases credentials? data with
  | none => rfl
  | some found =>
    obtain ⟨token, profile⟩ := found
    simp only [World.put_behind]
    rcases w.put Store.tokenKey token with ⟨stored, v⟩
    cases stored with
    | error e => rfl
    | ok _ =>
      simp only [World.put_behind]
      rcases v.put Store.userKey profile.text with ⟨stored, u⟩
      cases stored with
      | error e => rfl
      | ok _ => exact congrArg (Prod.mk _) (World.log_behind earlier u _)

theorem open?_behind (path body : String) :
    open? client path body (w.behind earlier) =
      ((open? client path body w).1, (open? client path body w).2.behind earlier) := by
  unfold open?
  rw [Client.request_behind]
  rcases client.request Value.ofBytes? "POST" path (some body) w with ⟨answer, v⟩
  cases answer with
  | error e => rfl
  | ok answer => exact keep_behind earlier v answer.data

theorem within_behind {α : Type} (span : Log.Span) {act : World → α × World}
    (inside : ∀ w, act (w.behind earlier) = ((act w).1, (act w).2.behind earlier)) :
    within span act (w.behind earlier) =
      ((within span act w).1, (within span act w).2.behind earlier) := by
  simp only [within, World.enter_behind, inside, World.leave_behind]

theorem login_behind (username password : String) :
    login client username password (w.behind earlier) =
      ((login client username password w).1, (login client username password w).2.behind earlier) :=
  within_behind earlier w _ fun w => open?_behind client earlier w _ _

theorem loginAsGuest_behind :
    loginAsGuest client (w.behind earlier) =
      ((loginAsGuest client w).1, (loginAsGuest client w).2.behind earlier) :=
  within_behind earlier w _ fun w => open?_behind client earlier w _ _

theorem validate_behind :
    validate client (w.behind earlier) =
      ((validate client w).1, (validate client w).2.behind earlier) :=
  within_behind earlier w _ fun w => by simp only [Client.request_behind]

theorem logout_behind :
    logout (w.behind earlier) = ((logout w).1, (logout w).2.behind earlier) := by
  unfold logout
  rw [World.remove_behind]
  rcases w.remove Store.tokenKey with ⟨removed, v⟩
  cases removed with
  | error e => rfl
  | ok _ =>
    simp only [World.remove_behind]
    rcases v.remove Store.userKey with ⟨removed, u⟩
    cases removed with
    | error e => rfl
    | ok _ => exact congrArg (Prod.mk _) (World.log_behind earlier u _)

end Session

/-! ### The controller -/

namespace Controller

/-- The same end of an operation, with another search term and a longer history. -/
def Effect.reframed {α : Type} (term : String) (earlier : Journal) (effect : Effect α) : Effect α :=
  ⟨effect.result, effect.controller.setFilter term, effect.world.behind earlier⟩

variable (client : Client) (term : String) (earlier : Journal) (c : Controller) (w : World)

theorem within_reframed {α : Type} (span : Log.Span) {act act' : World → Effect α}
    (inside : ∀ w, act' (w.behind earlier) = (act w).reframed term earlier) :
    within span act' (w.behind earlier) = (within span act w).reframed term earlier := by
  simp only [within, World.enter_behind, inside, Effect.reframed, World.leave_behind]

theorem fetch_behind :
    fetch client (w.behind earlier) = ((fetch client w).1, (fetch client w).2.behind earlier) := by
  unfold fetch
  rw [Client.request_behind]
  rcases client.request decodeList? "GET" listPath none w with ⟨answer, v⟩
  cases answer with
  | error e => rfl
  | ok answer => cases found : answer.data <;> simp only [found]

theorem refresh_reframed :
    refresh client (c.setFilter term) (w.behind earlier) =
      (refresh client c w).reframed term earlier := by
  unfold refresh
  rw [fetch_behind]
  rcases fetch client w with ⟨fetched, v⟩
  cases fetched with
  | error e => simp only [notifyFailure, World.notify_behind, Effect.reframed]
  | ok teachers =>
    simp only [World.log_behind, Effect.reframed]
    rfl

theorem load_reframed :
    load client (c.setFilter term) (w.behind earlier) = (load client c w).reframed term earlier :=
  within_reframed term earlier w _ fun w => refresh_reframed client term earlier c w

theorem reload_reframed (failed : Log.Event) :
    reload client failed (c.setFilter term) (w.behind earlier) =
      ((reload client failed c w).1.setFilter term, (reload client failed c w).2.behind earlier) := by
  unfold reload
  rw [load_reframed]
  rcases load client c w with ⟨result, c', v⟩
  cases result with
  | ok _ => rfl
  | error e => simp only [Effect.reframed, World.log_behind]

/-- The term has no part in what is planned for a draft. -/
theorem plan_setFilter : (c.setFilter term).plan = c.plan := rfl

theorem save_reframed :
    save client (c.setFilter term) (w.behind earlier) = (save client c w).reframed term earlier := by
  unfold save
  rw [plan_setFilter]
  cases c.plan with
  | error fault => simp only [notifyFailure, World.notify_behind, Effect.reframed]
  | ok plan =>
    obtain ⟨outcome, method, path⟩ := plan
    simp only [Client.request_behind, show (c.setFilter term).draft = c.draft from rfl]
    rcases client.request Value.ofBytes? method path (some c.draft.json) w with ⟨answer, v⟩
    cases answer with
    | error e => simp only [notifyFailure, World.notify_behind, Effect.reframed]
    | ok answer =>
      -- the form is emptied under either term
      simp only [World.log_behind, World.notify_behind, Effect.reframed,
        show (c.setFilter term).reset = c.reset.setFilter term from rfl, reload_reframed]

theorem submit_reframed :
    submit client (c.setFilter term) (w.behind earlier) =
      (submit client c w).reframed term earlier :=
  within_reframed term earlier w _ fun w => save_reframed client term earlier c w

theorem erase_reframed (id : TeacherId) :
    eraseIfConfirmed client (c.setFilter term) id (w.behind earlier) =
      (eraseIfConfirmed client c id w).reframed term earlier := by
  unfold eraseIfConfirmed
  rw [World.ask_behind]
  rcases w.ask deleteQuestion with ⟨agreed, v⟩
  cases agreed with
  | false => simp only [World.log_behind, Effect.reframed]
  | true =>
    simp only [Client.request_behind]
    rcases client.request Value.ofBytes? "DELETE" (itemPath id) none v with ⟨answer, u⟩
    cases answer with
    | error e => simp only [notifyFailure, World.notify_behind, Effect.reframed]
    | ok answer =>
      simp only [World.log_behind, World.notify_behind, Effect.reframed, reload_reframed]

theorem delete_reframed (id : TeacherId) :
    delete client (c.setFilter term) id (w.behind earlier) =
      (delete client c id w).reframed term earlier :=
  within_reframed term earlier w _ fun w => erase_reframed client term earlier c w id

theorem toggleForm_setFilter : (c.setFilter term).toggleForm = c.toggleForm.setFilter term := by
  simp only [toggleForm, show (c.setFilter term).formVisible = c.formVisible from rfl]
  split <;> rfl

theorem beginEdit_reframed (teacher : Teacher) :
    beginEdit (c.setFilter term) teacher (w.behind earlier) =
      ((beginEdit c teacher w).1.setFilter term, (beginEdit c teacher w).2.behind earlier) := by
  simp only [beginEdit, World.log_behind, setFilter]

theorem beginEditById_reframed (id : TeacherId) :
    beginEditById (c.setFilter term) id (w.behind earlier) =
      (beginEditById c id w).reframed term earlier := by
  unfold beginEditById
  rw [show (c.setFilter term).find? id = c.find? id from rfl]
  cases c.find? id with
  | none => rfl
  | some teacher => simp only [beginEdit_reframed, Effect.reframed]

end Controller

/-! ### The desk -/

namespace Desk

/-- The same desk with another search term and a longer history. -/
def reframed (term : String) (earlier : Journal) (desk : Desk) : Desk :=
  ⟨desk.client, desk.controller.setFilter term, desk.world.behind earlier⟩

/-- Whether an action only looks at something, or sets what is to be looked at. -/
def Action.onlyLooks : Action → Bool
  | .find _ | .setFilter _ | .clearFilter | .isLoggedIn | .user | .storeGet _ | .token => true
  | _ => false

variable (desk : Desk) (term : String) (earlier : Journal)

private theorem ofEffect_reframed {α : Type} (effect : Controller.Effect α) (report : α → Report) :
    (desk.reframed term earlier).ofEffect (effect.reframed term earlier) report =
      ((desk.ofEffect effect report).1,
        (desk.ofEffect effect report).2.reframed term earlier) := rfl

private theorem ofWorld_reframed {ε α : Type} (outcome : Except ε α × World) (failure : ε → Failure)
    (report : α → Report) :
    (desk.reframed term earlier).ofWorld (outcome.1, outcome.2.behind earlier) failure report =
      ((desk.ofWorld outcome failure report).1,
        (desk.ofWorld outcome failure report).2.reframed term earlier) := rfl

/-- An action that does more than look comes to the same whatever the term and the history are. -/
theorem act_reframed {action : Action} (acts : action.onlyLooks = false) :
    (desk.reframed term earlier).act action =
      ((desk.act action).1, (desk.act action).2.reframed term earlier) := by
  cases action with
  | load =>
    rw [act, act, ← ofEffect_reframed, ← Controller.load_reframed]
    rfl
  | submit =>
    rw [act, act, ← ofEffect_reframed, ← Controller.submit_reframed]
    rfl
  | delete id =>
    rw [act, act, ← ofEffect_reframed, ← Controller.delete_reframed]
    rfl
  | beginEditById id =>
    rw [act, act, ← ofEffect_reframed, ← Controller.beginEditById_reframed]
    rfl
  | beginEdit teacher =>
    simp only [act, reframed, Controller.beginEdit_reframed]
  | toggleForm => simp only [act, reframed, Controller.toggleForm_setFilter]
  | updateFieldByName name value =>
    simp only [act, reframed, Controller.updateFieldByName]
    cases Teacher.Field.ofString? name <;> rfl
  | login username password =>
    rw [act, act, ← ofWorld_reframed, ← Session.login_behind]
    rfl
  | loginAsGuest =>
    rw [act, act, ← ofWorld_reframed, ← Session.loginAsGuest_behind]
    rfl
  | validate =>
    rw [act, act, ← ofWorld_reframed, ← Session.validate_behind]
    rfl
  | logout =>
    rw [act, act, ← ofWorld_reframed, ← Session.logout_behind]
    rfl
  | storeSet key value =>
    rw [act, act, ← ofWorld_reframed, ← World.put_behind]
    rfl
  | storeRemove key =>
    rw [act, act, ← ofWorld_reframed, ← World.remove_behind]
    rfl
  | evict =>
    simp only [act, reframed, World.evict_behind]
  | request method path body shape =>
    rw [act, act, ← ofWorld_reframed, ← Client.request_behind]
    rfl
  | reset | updateField => rfl
  | find | setFilter | clearFilter | isLoggedIn | user | storeGet | token => cases acts

end Desk

end TeacherRegistry
