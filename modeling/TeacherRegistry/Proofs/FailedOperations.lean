import TeacherRegistry.Proofs.Operations

/-!
# A failed operation changes nothing

An operation of the controller is decided by the one call that it begins with. As long as that call
has not been answered the controller stays as it was, and nothing is sent after it: the list is read
again only when a change has been accepted. An operation that makes no call fails without having sent
anything.
-/

namespace TeacherRegistry

open Json (Value)

namespace Controller

variable {client : Client} {c : Controller} {w : World}

/-- Nothing has come of an operation: the controller is as it was before, and all requests since
then belong to this call, if there was one. -/
structure Unchanged {α : Type} (c : Controller) (w : World) (call? : Option Call)
    (effect : Effect α) : Prop where
  controller : effect.controller = c
  hops : (effect.world.since w).hops = call?.elim [] fun call => call.news.hops

/-- An operation is what is done in its course. -/
theorem Unchanged.within {α : Type} {span : Log.Span} {act : World → Effect α} {call? : Option Call}
    {e : Error} (inside : (act (w.enter span)).result = .error e →
      Unchanged c (w.enter span) call? (act (w.enter span)))
    (failed : (within span act w).result = .error e) :
    Unchanged c w call? (within span act w) :=
  let unchanged := inside failed
  ⟨unchanged.controller, unchanged.hops⟩

/-- What is said around a call that fails makes no requests. -/
private theorem hops_around {t u v w : World} (before : t.Silent u) (call : u.Precedes v)
    (after : v.Silent w) : (w.since t).hops = (v.since u).hops := by
  rw [World.since_trans before.precedes (call.trans after.precedes),
    World.since_trans call after.precedes, Journal.hops_append, Journal.hops_append,
    before.hops_since, after.hops_since, List.nil_append, List.append_nil]

theorem unchanged_of_refresh {e : Error} (failed : (refresh client c w).result = .error e) :
    Unchanged c w (some (loadingCall client w)) (refresh client c w) := by
  have ends := refreshing_refresh client c w
  generalize refresh client c w = effect at ends failed
  cases ends with
  | failed fetched =>
    obtain ⟨answer, called⟩ := request_of_fetch fetched
    refine ⟨rfl, ?_⟩
    rw [loadingCall, Option.elim_some, Call.news_of called]
    exact hops_around (.refl w) (client.precedes_of_request called) (World.silent_notify ..)
  | done fetched => cases failed

theorem unchanged_of_save {e : Error} (failed : (save client c w).result = .error e) :
    Unchanged c w (savingCall? client c w) (save client c w) := by
  have ends := saving_save client c w
  generalize save client c w = effect at ends failed
  cases ends with
  | invalid planned =>
    refine ⟨rfl, ?_⟩
    simp only [savingCall?, planned, Except.toOption, Option.map_none, Option.elim_none]
    exact (World.silent_notify w _ _).hops_since
  | refused planned called =>
    refine ⟨rfl, ?_⟩
    simp only [savingCall?, planned, Except.toOption, Option.map_some, Option.elim_some,
      Call.news_of called]
    exact hops_around (.refl w) (client.precedes_of_request called) (World.silent_notify ..)
  | accepted planned called reloaded => cases failed

theorem unchanged_of_erase {id : TeacherId} {e : Error}
    (failed : (eraseIfConfirmed client c id w).result = .error e) :
    Unchanged c w (erasingCall? client id w) (eraseIfConfirmed client c id w) := by
  have ends := erasing_erase client c w id
  generalize eraseIfConfirmed client c id w = effect at ends failed
  cases ends with
  | declined asked => cases failed
  | refused asked called =>
    have silent := w.silent_ask deleteQuestion
    rw [asked] at silent
    refine ⟨rfl, ?_⟩
    simp only [erasingCall?, asked, Option.elim_some, Call.news_of called]
    exact hops_around silent (client.precedes_of_request called) (World.silent_notify ..)
  | accepted asked called reloaded => cases failed

/-- A deletion that is declined asks a question, and that is all. -/
theorem declined_of_erase {id : TeacherId}
    (declined : (eraseIfConfirmed client c id w).result = .ok .declined) :
    (eraseIfConfirmed client c id w).controller = c ∧
      ((eraseIfConfirmed client c id w).world.since w).requests = [] ∧
      ((eraseIfConfirmed client c id w).world.since w).notices = [] := by
  have ends := erasing_erase client c w id
  generalize eraseIfConfirmed client c id w = effect at ends declined
  cases ends with
  | @declined v asked =>
    -- both entries of the journal are known, and neither is a request or a notice
    have told := w.journal_ask deleteQuestion
    rw [asked] at told
    have grown : (v.log .deleteDeclined).journal = w.journal ++
        [.asked deleteQuestion false, .logged .deleteDeclined v.spans] := by
      rw [World.log, World.logAll, World.append, told, List.append_assoc]
      rfl
    rw [World.since_eq grown]
    exact ⟨rfl, rfl, rfl⟩
  | refused asked called => cases declined
  | accepted asked called reloaded => cases declined

theorem unchanged_of_load {e : Error} (failed : (load client c w).result = .error e) :
    Unchanged c w (some (loadingCall client (w.enter .load))) (load client c w) :=
  .within unchanged_of_refresh failed

theorem unchanged_of_submit {e : Error} (failed : (submit client c w).result = .error e) :
    Unchanged c w (savingCall? client c (w.enter (.submit c.editing))) (submit client c w) :=
  .within unchanged_of_save failed

theorem unchanged_of_delete {id : TeacherId} {e : Error}
    (failed : (delete client c id w).result = .error e) :
    Unchanged c w (erasingCall? client id (w.enter (.delete id.display)))
      (delete client c id w) :=
  .within unchanged_of_erase failed

end Controller

namespace Desk

/-- Only operations of the controller fail with an error of the controller. -/
theorem unchanged_of_failed {desk : Desk} {action : Action} {e : Controller.Error}
    (failed : (desk.act action).1 = .error (.controller e)) :
    (desk.act action).2.controller = desk.controller ∧
      ((desk.act action).2.world.since desk.world).hops =
        (desk.opening? action).elim [] fun call => call.news.hops := by
  cases action with
  | load =>
    simp only [act, controller_ofEffect, world_ofEffect] at failed ⊢
    obtain ⟨same, sent⟩ := Controller.unchanged_of_load (error_of_ofEffect failed)
    exact ⟨same, sent⟩
  | submit =>
    simp only [act, controller_ofEffect, world_ofEffect] at failed ⊢
    obtain ⟨same, sent⟩ := Controller.unchanged_of_submit (error_of_ofEffect failed)
    exact ⟨same, sent⟩
  | delete id =>
    simp only [act, controller_ofEffect, world_ofEffect] at failed ⊢
    obtain ⟨same, sent⟩ := Controller.unchanged_of_delete (error_of_ofEffect failed)
    exact ⟨same, sent⟩
  | beginEditById id =>
    simp only [act, controller_ofEffect, world_ofEffect] at failed ⊢
    have result := error_of_ofEffect failed
    unfold Controller.beginEditById at result ⊢
    split at result
    · cases result
    · exact ⟨rfl, (World.Silent.refl desk.world).hops_since⟩
  | updateFieldByName name value =>
    simp only [act] at failed ⊢
    split at failed
    · cases failed
    · exact ⟨rfl, (World.Silent.refl desk.world).hops_since⟩
  | login | loginAsGuest | validate | logout | isLoggedIn | user | storeGet | storeSet
  | storeRemove | request =>
    simp only [act] at failed
    obtain ⟨given, _, impossible⟩ := error_of_ofWorld failed
    cases impossible
  | _ => cases failed

/-- Only a deletion is declined. -/
theorem declined_of_act {desk : Desk} {action : Action}
    (declined : (desk.act action).1 = .ok (.deleted .declined)) :
    (desk.act action).2.controller = desk.controller ∧
      ((desk.act action).2.world.since desk.world).requests = [] ∧
      ((desk.act action).2.world.since desk.world).notices = [] := by
  cases reported_act declined with
  | deleted result => exact Controller.declined_of_erase result
  | other unrelated => cases unrelated

end Desk

/-- An operation of the controller that fails leaves the controller as it was, and all its requests
are those of the call that it began with: nothing follows a failed call. A deletion that is declined
leaves the controller as it was too, sends nothing and gives no notice. -/
theorem Desk.failure_changes_nothing (desk : Desk) (step : Desk.Step) :
    let before := { desk with world := { desk.world with farEnd := step.farEnd } }
    let after := (desk.take step).2
    let news := after.world.since desk.world
    (∀ e, (desk.take step).1 = .error (.controller e) →
      after.controller = desk.controller ∧
        news.hops = (before.opening? step.action).elim [] fun call => call.news.hops) ∧
      ((desk.take step).1 = .ok (.deleted .declined) →
        after.controller = desk.controller ∧ news.requests = [] ∧ news.notices = []) := by
  intro before after news
  exact ⟨fun e failed => Desk.unchanged_of_failed failed, Desk.declined_of_act⟩

end TeacherRegistry
