import Mathlib.Data.List.Induction
import TeacherRegistry.Proofs.IdNumbers
import TeacherRegistry.Proofs.Resubmission
import TeacherRegistry.Proofs.TypedTexts

/-!
# What a closed form holds

Whatever closes the form empties it, but it can be typed into while it is closed, and opening it shows
what has been typed. So a closed form holds nothing but the texts that were typed into it since it was
closed, or since the beginning.
-/

namespace TeacherRegistry

namespace Desk

/-- What an action types into the form. -/
def typed? : Action → Option (Teacher.Field × String)
  | .updateField field value => some (field, value)
  | .updateFieldByName name value =>
    (Teacher.Field.ofString? name).map fun field => (field, value)
  | _ => none

/-- What steps type into the form in turn. -/
def typed (steps : List Step) : List (Teacher.Field × String) :=
  steps.filterMap fun step => typed? step.action

theorem typed_concat (steps : List Step) (step : Step) :
    typed (steps ++ [step]) = typed steps ++ (typed? step.action).toList := by
  rw [typed, List.filterMap_append, ← typed]
  cases found : typed? step.action <;> simp [found]

theorem run_concat (desk : Desk) (steps : List Step) (step : Step) :
    desk.run (steps ++ [step]) = ((desk.run steps).take step).2 := by
  rw [run, List.foldl_append, ← run]
  rfl

theorem form_of_typed (desk : Desk) {action : Action} {field : Teacher.Field} {text : String}
    (types : typed? action = some (field, text)) :
    (desk.act action).2.controller.form =
      (desk.controller.draft.set field text, desk.controller.editing,
        desk.controller.formVisible) := by
  cases action with
  | updateField =>
    cases types
    rfl
  | updateFieldByName name value =>
    rw [typed?, Option.map_eq_some_iff] at types
    obtain ⟨known, named, same⟩ := types
    cases same
    simp only [act, Controller.updateFieldByName, named]
    rfl
  | _ => cases types

/-- An action that types nothing and leaves the form closed has not touched it, or has emptied it. -/
theorem form_of_closed (desk : Desk) {action : Action} (quiet : typed? action = none)
    (closed : (desk.act action).2.controller.formVisible = false) :
    (desk.act action).2.controller.form = desk.controller.form ∨
      (desk.act action).2.controller.form = Controller.initial.form := by
  cases action with
  | load =>
    simp only [act, controller_ofEffect]
    exact Or.inl (Controller.form_load desk.client desk.controller desk.world)
  | delete id =>
    simp only [act, controller_ofEffect]
    exact Or.inl (Controller.form_delete desk.client desk.controller desk.world id)
  | submit =>
    simp only [act, controller_ofEffect]
    cases result : (desk.controller.submit desk.client desk.world).result with
    | ok outcome => exact Or.inr (Controller.form_of_submitted result)
    | error e =>
      exact Or.inl (congrArg Controller.form (Controller.unchanged_of_submit result).controller)
  | beginEdit => cases closed
  | beginEditById id =>
    simp only [act, controller_ofEffect, Controller.beginEditById] at closed ⊢
    -- a record that is found opens the form
    cases found : desk.controller.find? id with
    | none => exact Or.inl rfl
    | some teacher =>
      rw [found] at closed
      cases closed
  | toggleForm =>
    simp only [act, Controller.toggleForm] at closed ⊢
    split at closed
    next visible =>
      rw [if_pos visible]
      exact Or.inr rfl
    next => cases closed
  | updateField => cases quiet
  | updateFieldByName name value =>
    rw [typed?, Option.map_eq_none_iff] at quiet
    simp only [act, Controller.updateFieldByName, quiet, true_or]
  | reset => exact Or.inr rfl
  | login | loginAsGuest | validate | logout | isLoggedIn | user | storeGet | storeSet
  | storeRemove | request => exact Or.inl (congrArg Controller.form (controller_ofWorld ..))
  | find | token | evict | setFilter | clearFilter => exact Or.inl rfl

/-- The form was empty after the first steps, and it was closed all along the later ones. -/
structure ClosedSince (desk : Desk) (earlier later : List Step) : Prop where
  emptied : (desk.run earlier).controller.form = Controller.initial.form
  closed : ∀ part, part <+: later →
    (desk.run (earlier ++ part)).controller.formVisible = false

namespace ClosedSince

variable {desk : Desk} {earlier later : List Step}

theorem of_emptied (emptied : (desk.run earlier).controller.form = Controller.initial.form) :
    ClosedSince desk earlier [] := by
  refine ⟨emptied, fun part inside => ?_⟩
  rw [List.prefix_nil.mp inside, List.append_nil]
  exact congrArg (·.2.2) emptied

theorem concat (since : ClosedSince desk earlier later) {step : Step}
    (closed : (desk.run (earlier ++ later ++ [step])).controller.formVisible = false) :
    ClosedSince desk earlier (later ++ [step]) := by
  refine ⟨since.emptied, fun part inside => ?_⟩
  rcases List.prefix_concat_iff.mp inside with rfl | before
  · rw [← List.append_assoc]
    exact closed
  · exact since.closed part before

end ClosedSince

/-- A closed form holds what was typed into it since it was empty, and was closed all the time. -/
theorem form_of_run_closed {desk : Desk} (empty : desk.controller.form = Controller.initial.form)
    (steps : List Step) (closed : (desk.run steps).controller.formVisible = false) :
    ∃ earlier later, steps = earlier ++ later ∧ ClosedSince desk earlier later ∧
      (desk.run steps).controller.form = (Teacher.empty.fill (typed later), false, false) := by
  induction steps using List.reverseRecOn with
  | nil => exact ⟨[], [], rfl, .of_emptied empty, empty⟩
  | append_singleton steps step ih =>
    have after : desk.run (steps ++ [step]) =
        (((desk.run steps).meets step.farEnd).act step.action).2 := run_concat desk steps step
    rw [after] at closed ⊢
    cases types : typed? step.action with
    | some entry =>
      -- typing neither opens the form nor closes it
      obtain ⟨field, text⟩ := entry
      have form := form_of_typed ((desk.run steps).meets step.farEnd) types
      have before : (desk.run steps).controller.formVisible = false :=
        (congrArg (·.2.2) form).symm.trans closed
      obtain ⟨earlier, later, rfl, since, held⟩ := ih before
      refine ⟨earlier, later ++ [step], List.append_assoc .., since.concat ?_, form.trans ?_⟩
      · rw [after]
        exact closed
      · rw [typed_concat, types, Teacher.fill_append]
        exact congrArg (fun form => (form.1.set field text, form.2.1, form.2.2)) held
    | none =>
      rcases form_of_closed ((desk.run steps).meets step.farEnd) types closed with same | emptied
      · have before : (desk.run steps).controller.formVisible = false :=
          (congrArg (·.2.2) same).symm.trans closed
        obtain ⟨earlier, later, rfl, since, held⟩ := ih before
        refine ⟨earlier, later ++ [step], List.append_assoc .., since.concat ?_, same.trans ?_⟩
        · rw [after]
          exact closed
        · rw [typed_concat, types, Option.toList_none, List.append_nil]
          exact held
      · refine ⟨steps ++ [step], [], (List.append_nil _).symm, .of_emptied ?_, emptied⟩
        rw [after]
        exact emptied

end Desk

namespace Controller

variable {c : Controller} {draft : Teacher}

/-- A form that is opened shows the draft it was closed with. -/
theorem form_toggleForm_of_closed (form : c.form = (draft, false, false)) :
    c.toggleForm.form = (draft, false, true) := by
  simp only [Controller.form, Prod.mk.injEq] at form
  obtain ⟨rfl, editing, visible⟩ := form
  simp [toggleForm, Controller.form, editing, visible]

theorem toggleForm_twice_of_closed (form : c.form = (draft, false, false)) :
    c.toggleForm.toggleForm = c ↔ draft = .empty := by
  simp only [Controller.form, Prod.mk.injEq] at form
  obtain ⟨rfl, editing, visible⟩ := form
  obtain ⟨collection, draft, _, _, filter⟩ := c
  cases editing
  cases visible
  simp [toggleForm, reset, eq_comm]

end Controller

/-- In every run, a closed form is not under edit, and its draft holds what was typed into it since
it was empty and no more. Exactly if nothing is left of this, opening the form shows an empty new
record, and opening and closing it changes nothing. -/
theorem Desk.closed_form (client : Client) (world : World) (steps : List Desk.Step) :
    let start := Desk.initial client world
    let c := (start.run steps).controller
    c.formVisible = false → ∃ earlier later, steps = earlier ++ later ∧
      Desk.ClosedSince start earlier later ∧ c.editing = false ∧
      c.draft = Teacher.empty.fill (Desk.typed later) ∧
      let nothingLeft := ∀ field text, (Desk.typed later).reverse.lookup field = some text →
        field.held text = ""
      (c.toggleForm.form = Controller.initial.toggleForm.form ↔ nothingLeft) ∧
        (c.toggleForm.toggleForm = c ↔ nothingLeft) := by
  intro start c closed
  have empty : start.controller.form = Controller.initial.form := rfl
  obtain ⟨earlier, later, parts, since, form⟩ := Desk.form_of_run_closed empty steps closed
  have idle : c.editing = false := congrArg (·.2.1) form
  have draft : c.draft = Teacher.empty.fill (Desk.typed later) := congrArg (·.1) form
  refine ⟨earlier, later, parts, since, idle, draft, ?_, ?_⟩
  · rw [Controller.form_toggleForm_of_closed form, ← Teacher.fill_empty_iff]
    simp [Controller.form, Controller.toggleForm, Controller.initial]
  · rw [Controller.toggleForm_twice_of_closed form, Teacher.fill_empty_iff]

namespace Desk

/-- The form is closed after a record was under edit, and then typed into. -/
def typedAhead : List Step :=
  [⟨.unreachable, .beginEdit hyphenated⟩, ⟨.unreachable, .toggleForm⟩,
    ⟨.unreachable, .updateFieldByName "nombre" "Ana"⟩]

theorem closed_form_typedAhead :
    ∃ earlier later, typedAhead = earlier ++ later ∧ ClosedSince sample earlier later ∧
      (sample.run typedAhead).controller.draft = Teacher.empty.fill (typed later) := by
  obtain ⟨earlier, later, parts, since, _, draft, _⟩ :=
    closed_form sample.client sample.world typedAhead (by decide +kernel)
  exact ⟨earlier, later, parts, since, draft⟩

/-- Typing into the closed form is enough for it not to be empty, so that it is opened with that text
in it, and opening and closing it loses the text. -/
theorem closed_form_not_empty :
    let closed (c : Controller) := ∃ client world steps,
      c = ((initial client world).run steps).controller ∧ c.formVisible = false
    (¬ ∀ c, closed c → c.draft = .empty ∧ c.editing = false) ∧
      (¬ ∀ c, closed c → c.toggleForm.form = (.empty, false, true)) ∧
      ¬ ∀ c, closed c → c.toggleForm.toggleForm = c := by
  intro closed
  have reached : closed (sample.run [⟨.unreachable, .updateField .name "Ana"⟩]).controller :=
    ⟨sample.client, sample.world, _, rfl, by decide +kernel⟩
  refine ⟨fun law => ?_, fun law => ?_, fun law => ?_⟩
  · exact absurd (law _ reached).1 (by decide +kernel)
  · exact absurd (law _ reached) (by decide +kernel)
  · exact absurd (law _ reached) (by decide +kernel)

end Desk

end TeacherRegistry
