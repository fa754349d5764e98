import TeacherRegistry.Proofs.FormSteps

/-!
# Identification numbers in the form

What is typed as an identification number is cut down to its first ten digits. A record that is put
into the form to be edited brings its number along as it is, and the server may have sent any text. So
the number in the form is well-formed unless it came in with the record that was put there last.
-/

namespace TeacherRegistry

namespace Teacher

/-- Typing into the form leaves the identification number alone or makes it well-formed. -/
theorem idNumber_set (t : Teacher) (field : Field) (value : String) :
    (t.set field value).idNumber = t.idNumber ∨ isIdNumber (t.set field value).idNumber = true := by
  cases field with
  | idNumber => exact Or.inr (isIdNumber_cleanIdNumber value)
  | name | email | specialty => exact Or.inl rfl

end Teacher

open Teacher (isIdNumber)

namespace Controller

variable {c c' : Controller} {last taken : Option Teacher}

/-- The number in the form is that of the record under edit, as it was put there. -/
def BringsNumber (c : Controller) (last : Option Teacher) : Prop :=
  c.editing = true ∧ ∃ teacher, last = some teacher ∧ c.draft.idNumber = teacher.idNumber

/-- A number in the form is well-formed, or it has come with the record under edit. -/
def NumberTraced (c : Controller) (last : Option Teacher) : Prop :=
  isIdNumber c.draft.idNumber = true ∨ BringsNumber c last

theorem numberTraced_initial (last : Option Teacher) : NumberTraced initial last :=
  Or.inl rfl

/-- Only the number and whether it is under edit count. -/
theorem NumberTraced.of_same (traced : NumberTraced c last)
    (number : c'.draft.idNumber = c.draft.idNumber) (editing : c'.editing = c.editing) :
    NumberTraced c' last := by
  rw [NumberTraced, BringsNumber, number, editing]
  exact traced

theorem NumberTraced.step (traced : NumberTraced c last) (step : FormStep c c' taken) :
    NumberTraced c' (taken.or last) := by
  cases step with
  | kept same | opened same =>
    simp only [form, Prod.mk.injEq] at same
    exact traced.of_same (by rw [same.1]) same.2.1
  | emptied same =>
    simp only [form, reset, Prod.mk.injEq] at same
    exact Or.inl (by rw [same.1]; rfl)
  | typed field value same =>
    simp only [form, Prod.mk.injEq] at same
    obtain ⟨draft, editing, _⟩ := same
    rcases c.draft.idNumber_set field value with untouched | cleaned
    · exact traced.of_same (by rw [draft, untouched]) editing
    · exact Or.inl (by rw [draft, cleaned])
  | taken teacher same =>
    simp only [form, Prod.mk.injEq] at same
    obtain ⟨draft, editing, _⟩ := same
    exact Or.inr ⟨editing, teacher, rfl, by rw [draft]⟩

end Controller

namespace Desk

open Controller (NumberTraced)

/-- In every run the identification number in the form is a text of at most ten digits, except as
long as it is the malformed number of the record that was put into the form last. -/
theorem isIdNumber_draft_iff (client : Client) (world : World) (steps : List Step) :
    let desk := (initial client world).run steps
    let last := (initial client world).lastInEdit? none steps
    isIdNumber desk.controller.draft.idNumber = true ↔
      ¬ (desk.controller.editing = true ∧ ∃ teacher, last = some teacher ∧
        desk.controller.draft.idNumber = teacher.idNumber ∧
          isIdNumber teacher.idNumber = false) := by
  intro desk last
  have traced : NumberTraced desk.controller last :=
    run_keeps (fun _ _ _ _ step held => held.step step) (Controller.numberTraced_initial none) steps
  constructor
  · rintro wellFormed ⟨_, teacher, _, brought, malformed⟩
    rw [brought, malformed] at wellFormed
    cases wellFormed
  · intro otherwise
    rcases traced with wellFormed | ⟨editing, teacher, lastInEdit, brought⟩
    · exact wellFormed
    · by_contra malformed
      exact otherwise ⟨editing, teacher, lastInEdit, brought,
        by rw [← brought]; exact Bool.eq_false_iff.mpr malformed⟩

/-- A record as a server may hold it, its identification number written with a hyphen. -/
def hyphenated : Teacher :=
  ⟨some (.number 1), "1.234.567-8", "Ana", "ana@x.com", "Math"⟩

/-- Putting a record into the form is enough to have a malformed number there. -/
theorem isIdNumber_draft_fails :
    ¬ ∀ (client : Client) (world : World) (steps : List Step),
      isIdNumber ((initial client world).run steps).controller.draft.idNumber = true := by
  intro always
  have impossible := always sample.client sample.world [⟨.unreachable, .beginEdit hyphenated⟩]
  exact absurd impossible (by decide)

end Desk

end TeacherRegistry
