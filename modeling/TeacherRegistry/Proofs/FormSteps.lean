import TeacherRegistry.Proofs.Operations

/-!
# What an action can do to the form

Whatever is done at a desk, and whatever the server says to it, the form is left as it is, emptied
and closed, opened, typed into, or taken over by a record that is put into it. A property of the form
that these five keep holds all along a run.
-/

namespace TeacherRegistry

namespace Controller

/-- What the form of a controller is in. -/
def form (c : Controller) : Teacher × Bool × Bool :=
  (c.draft, c.editing, c.formVisible)

/-- How the form may have changed, `taken` being the record that was put into it. -/
inductive FormStep (c c' : Controller) : (taken : Option Teacher) → Prop where
  | kept (same : c'.form = c.form) : FormStep c c' none
  | emptied (same : c'.form = c.reset.form) : FormStep c c' none
  | opened (same : c'.form = (c.draft, c.editing, true)) : FormStep c c' none
  | typed (field : Teacher.Field) (value : String)
    (same : c'.form = (c.draft.set field value, c.editing, c.formVisible)) : FormStep c c' none
  | taken (teacher : Teacher) (same : c'.form = (teacher, true, true)) :
    FormStep c c' (some teacher)

variable (client : Client) (c : Controller) (w : World)

private theorem form_refresh : (refresh client c w).controller.form = c.form := by
  have ends := refreshing_refresh client c w
  generalize refresh client c w = effect at ends
  cases ends with
  | failed fetched => rfl
  | done fetched => rfl

theorem form_load : (load client c w).controller.form = c.form := by
  rw [load, controller_within, form_refresh]

private theorem controller_reload (failed : Log.Event) :
    (reload client failed c w).1 = (load client c w).controller := by
  unfold reload
  split
  next loaded => rw [loaded]
  next loaded => rw [loaded]

theorem form_reload (failed : Log.Event) : (reload client failed c w).1.form = c.form := by
  rw [controller_reload, form_load]

/-- A submission that comes to nothing leaves the form as it is, and any other empties it. -/
theorem formStep_submit : FormStep c (submit client c w).controller none := by
  have ends := saving_save client c (w.enter (.submit c.editing))
  rw [submit, controller_within]
  generalize save client c (w.enter (.submit c.editing)) = effect at ends ⊢
  cases ends with
  | invalid planned => exact .kept rfl
  | refused planned called => exact .kept rfl
  | @accepted outcome method path answer u v later planned called reloaded =>
    -- the draft is discarded before the collection is loaded again
    have emptied := form_reload client c.reset
      ((v.log (.draftSaved outcome.label)).notify .success outcome.notice) .reloadFailedAfterSave
    rw [reloaded] at emptied
    exact .emptied emptied

theorem form_delete (id : TeacherId) : (delete client c id w).controller.form = c.form := by
  have ends := erasing_erase client c (w.enter (.delete id.display)) id
  rw [delete, controller_within]
  generalize eraseIfConfirmed client c id (w.enter (.delete id.display)) = effect at ends ⊢
  cases ends with
  | declined asked => rfl
  | refused asked called => rfl
  | @accepted answer t u v later asked called reloaded =>
    have kept := form_reload client c
      ((u.log .recordDeleted).notify .success deleteSuccess) .reloadFailedAfterDelete
    rw [reloaded] at kept
    exact kept

theorem formStep_toggleForm : FormStep c c.toggleForm none := by
  unfold toggleForm
  split
  · exact .emptied rfl
  · exact .opened rfl

end Controller

namespace Desk

open Controller (FormStep)

/-- The record that an action puts into the form to be edited. -/
def putInEdit? (c : Controller) : Action → Option Teacher
  | .beginEdit teacher => some teacher
  | .beginEditById id => c.find? id
  | _ => none

/-- The record that was put into the form last after these steps, if `last` was so before them. -/
def lastInEdit? (last : Option Teacher) (desk : Desk) : List Step → Option Teacher
  | [] => last
  | step :: rest =>
    lastInEdit? ((putInEdit? desk.controller step.action).or last) (desk.take step).2 rest

/-- One case for each action: those that leave the form alone, those that empty it, those that type
into it, and those that put a record into it. -/
theorem act_formStep (desk : Desk) (action : Action) :
    FormStep desk.controller (desk.act action).2.controller
      (putInEdit? desk.controller action) := by
  cases action with
  | load =>
    simp only [act, controller_ofEffect]
    exact .kept (Controller.form_load desk.client desk.controller desk.world)
  | submit =>
    simp only [act, controller_ofEffect]
    exact Controller.formStep_submit desk.client desk.controller desk.world
  | delete id =>
    simp only [act, controller_ofEffect]
    exact .kept (Controller.form_delete desk.client desk.controller desk.world id)
  | beginEdit teacher => exact .taken teacher rfl
  | beginEditById id =>
    simp only [act, controller_ofEffect, Controller.beginEditById, putInEdit?]
    -- an identifier that is not in the collection leaves the form as it is
    cases desk.controller.find? id with
    | none => exact .kept rfl
    | some teacher => exact .taken teacher rfl
  | reset => exact .emptied rfl
  | toggleForm => exact Controller.formStep_toggleForm desk.controller
  | updateField field value => exact .typed field value rfl
  | updateFieldByName name value =>
    simp only [act, Controller.updateFieldByName]
    cases Teacher.Field.ofString? name with
    | none => exact .kept rfl
    | some field => exact .typed field value rfl
  | login | loginAsGuest | validate | logout | isLoggedIn | user | storeGet | storeSet
  | storeRemove | request => exact .kept (congrArg Controller.form (controller_ofWorld ..))
  | find | token | evict | setFilter | clearFilter => exact .kept rfl

/-- What every change of the form keeps, a run keeps. -/
theorem run_keeps {P : Controller → Option Teacher → Prop}
    (kept : ∀ c c' taken last, FormStep c c' taken → P c last → P c' (taken.or last))
    {desk : Desk} {last : Option Teacher} (holds : P desk.controller last) (steps : List Step) :
    P (desk.run steps).controller (desk.lastInEdit? last steps) := by
  -- the record that was put into the form last is carried along from step to step
  induction steps generalizing desk last with
  | nil => exact holds
  | cons step rest ih =>
    have first := act_formStep { desk with world := { desk.world with farEnd := step.farEnd } }
      step.action
    exact ih (kept _ _ _ last first holds)

end Desk

end TeacherRegistry
