import TeacherRegistry.Proofs.FirstRequests
import TeacherRegistry.Proofs.FormSteps
import TeacherRegistry.Proofs.TeacherWire

/-!
# What is edited is what is sent

The form is being edited exactly as long as its draft is the record that was put into it last, under
the identifier of that record; a draft that is not being edited has none. So a new record is sent
without an identifier, and a known one goes to its own path under its own identifier.
-/

namespace TeacherRegistry

open Json (Value)

namespace Controller

/-- The form agrees with the record that was put into it last. -/
structure Consistent (c : Controller) (last : Option Teacher) : Prop where
  visible : c.editing = true → c.formVisible = true
  fresh : c.editing = false → c.draft.id = none
  known : c.editing = true → ∃ teacher, last = some teacher ∧ c.draft.id = teacher.id

variable {client : Client} {c c' : Controller} {last taken : Option Teacher} {w : World}

theorem Consistent.of_form (consistent : c.Consistent last) (same : c'.form = c.form) :
    c'.Consistent last := by
  simp only [form, Prod.mk.injEq] at same
  obtain ⟨draft, editing, visible⟩ := same
  constructor
  · rw [editing, visible]
    exact consistent.visible
  · rw [editing, draft]
    exact consistent.fresh
  · rw [editing, draft]
    exact consistent.known

theorem consistent_initial (last : Option Teacher) : initial.Consistent last :=
  ⟨nofun, fun _ => rfl, nofun⟩

theorem consistent_reset (c : Controller) (last : Option Teacher) : c.reset.Consistent last :=
  ⟨nofun, fun _ => rfl, nofun⟩

theorem Consistent.updateField (consistent : c.Consistent last) (field : Teacher.Field)
    (value : String) : (c.updateField field value).Consistent last := by
  -- no field is the identifier
  constructor
  · exact consistent.visible
  · intro idle
    rw [Controller.updateField, Teacher.id_set]
    exact consistent.fresh idle
  · intro editing
    rw [Controller.updateField, Teacher.id_set]
    exact consistent.known editing

/-- Every change of the form keeps it in agreement with the record that was put into it last. -/
theorem Consistent.step (consistent : c.Consistent last) (step : FormStep c c' taken) :
    c'.Consistent (taken.or last) := by
  cases step with
  | kept same => exact consistent.of_form same
  | emptied same => exact (consistent_reset c last).of_form same
  | opened same =>
    have opened : Consistent { c with formVisible := true } last :=
      ⟨fun _ => rfl, consistent.fresh, consistent.known⟩
    exact opened.of_form same
  | typed field value same => exact (consistent.updateField field value).of_form same
  | taken teacher same =>
    have edited : Consistent { c with draft := teacher, editing := true, formVisible := true }
        (some teacher) := ⟨fun _ => rfl, nofun, fun _ => ⟨teacher, rfl, rfl⟩⟩
    exact edited.of_form same

end Controller

theorem Desk.run_consistent {desk : Desk} {last : Option Teacher}
    (consistent : desk.controller.Consistent last) (steps : List Desk.Step) :
    (desk.run steps).controller.Consistent (desk.lastInEdit? last steps) :=
  Desk.run_keeps (fun _ _ _ _ step held => held.step step) consistent steps

/-! ### What a submission sends -/

namespace Controller

variable {client : Client}

theorem plan_cases {c : Controller} {outcome : SaveOutcome} {method path : String}
    (planned : c.plan = .ok (outcome, method, path)) :
    (c.editing = false ∧ method = "POST" ∧ path = listPath) ∨
      ∃ id, c.editing = true ∧ c.draft.id = some id ∧ method = "PUT" ∧ path = itemPath id := by
  unfold plan at planned
  split at planned
  · cases planned
  next idle =>
    cases planned
    exact Or.inl ⟨idle, rfl, rfl⟩
  · cases planned
  next id _ editing known =>
    cases planned
    exact Or.inr ⟨id, editing, known, rfl, rfl⟩

/-- What may be sent first for a draft when this record was put into the form last: a new record
without an identifier, or the record that was put into the form under its own identifier. -/
inductive Saves (client : Client) (c : Controller) (last : Option Teacher) :
    Http.Request → Prop
  | creation {request : Http.Request} {url : Url} {members : List (String × Value)}
    (idle : c.editing = false) (address : client.urlFor listPath = .ok url)
    (method : request.method = "POST") (target : request.url = url.requested)
    (body : Value.ofString? request.body = some (.object members))
    (noId : Dictionary.get? members "id" = none) : Saves client c last request
  | update {request : Http.Request} {url : Url} {members : List (String × Value)}
    {teacher : Teacher} {id : TeacherId} (editing : c.editing = true)
    (lastInEdit : last = some teacher) (known : teacher.id = some id)
    (address : client.urlFor (itemPath id) = .ok url)
    (method : request.method = "PUT") (target : request.url = url.requested)
    (body : Value.ofString? request.body = some (.object members))
    (ownId : Dictionary.get? members "id" = some id.value) : Saves client c last request

theorem saves_of_first {c : Controller} {last : Option Teacher} {w : World}
    {request : Http.Request} (consistent : c.Consistent last)
    (first : (c.plan.toOption.bind fun plan =>
      client.firstRequest? plan.2.1 plan.2.2 (some c.draft.json) w) = some request) :
    Saves client c last request := by
  cases planned : c.plan with
  | error fault =>
    rw [planned] at first
    cases first
  | ok plan =>
    obtain ⟨outcome, method, path⟩ := plan
    rw [planned] at first
    obtain ⟨url, address, sameMethod, sameUrl, sameBody⟩ := Client.eq_of_firstRequest? first
    have body := c.draft.ofString?_json
    simp only [Option.getD_some] at sameMethod address sameBody
    rw [← sameBody] at body
    -- the identifier in the body is that of the draft, which the form decides
    have identifier := c.draft.get?_members
    rcases plan_cases planned with ⟨idle, rfl, rfl⟩ | ⟨id, editing, known, rfl, rfl⟩
    · rw [consistent.fresh idle] at identifier
      exact .creation idle address sameMethod sameUrl body identifier
    · obtain ⟨teacher, lastInEdit, same⟩ := consistent.known editing
      rw [known] at identifier same
      exact .update editing lastInEdit same.symm address sameMethod sameUrl body identifier

end Controller

/-- In every run the form agrees with the record that was put into it last, and so does the first
request of every submission. A submission that is planned sends one, if there is an address to send it
to that can be reached. -/
theorem Desk.edit_integrity (client : Client) (world : World) (steps : List Desk.Step) :
    let desk := (Desk.initial client world).run steps
    let last := (Desk.initial client world).lastInEdit? none steps
    desk.controller.Consistent last ∧
      ∀ farEnd,
        let first := ((desk.take ⟨farEnd, .submit⟩).2.world.since desk.world).requests.head?
        (∀ request, first = some request → Controller.Saves client desk.controller last request) ∧
          ∀ outcome method path url, desk.controller.plan = .ok (outcome, method, path) →
            client.urlFor path = .ok url →
            (Http.Request.to method url (some desk.controller.draft.json)).reaches farEnd = true →
              ∃ request, first = some request := by
  intro desk last
  have consistent : desk.controller.Consistent last :=
    Desk.run_consistent (Controller.consistent_initial none) steps
  have sameClient : desk.client = client := Desk.client_run (Desk.initial client world) steps
  refine ⟨consistent, ?_⟩
  intro farEnd first
  have planned : first = desk.controller.plan.toOption.bind fun plan =>
      client.firstRequest? plan.2.1 plan.2.2 (some desk.controller.draft.json)
        ({ desk.world with farEnd }.enter (.submit desk.controller.editing)) := by
    rw [← sameClient]
    exact Controller.head?_requests_of_submit desk.client desk.controller { desk.world with farEnd }
  constructor
  · intro request sent
    rw [planned] at sent
    exact Controller.saves_of_first consistent sent
  · intro outcome method path url plan address reaches
    rw [planned, plan]
    simp only [Except.toOption, Option.bind_some, Client.firstRequest?, address]
    exact ⟨_, if_pos reaches⟩

end TeacherRegistry
