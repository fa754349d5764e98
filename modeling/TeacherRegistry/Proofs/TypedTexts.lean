import TeacherRegistry.Console.Run

/-!
# Texts typed into a record

Each field of a record holds what was typed there last, cut down as the field demands, or what it held
before if nothing was typed there. The identifier is never typed.
-/

namespace TeacherRegistry

namespace Teacher

/-- What a field keeps of a text that is typed into it. -/
def Field.held (field : Field) (text : String) : String :=
  match field with
  | .idNumber => cleanIdNumber text
  | .name | .email | .specialty => text

/-- The record with texts typed into it in turn. -/
def fill (t : Teacher) (typed : List (Field × String)) : Teacher :=
  typed.foldl (fun t entry => t.set entry.1 entry.2) t

theorem get_set (t : Teacher) (field : Field) (text : String) :
    (t.set field text).get field = field.held text := by
  cases field <;> rfl

/-- A record is its identifier and its fields. -/
theorem eq_of_get {t u : Teacher} (id : t.id = u.id) (fields : ∀ field, t.get field = u.get field) :
    t = u := by
  obtain ⟨_, _, _, _, _⟩ := t
  obtain ⟨_, _, _, _, _⟩ := u
  cases id
  cases fields .idNumber
  cases fields .name
  cases fields .email
  cases fields .specialty
  rfl

@[simp] theorem get_empty (field : Field) : empty.get field = "" := by
  cases field <;> rfl

theorem fill_append (t : Teacher) (typed later : List (Field × String)) :
    t.fill (typed ++ later) = (t.fill typed).fill later :=
  List.foldl_append

@[simp] theorem id_fill (t : Teacher) (typed : List (Field × String)) : (t.fill typed).id = t.id := by
  induction typed generalizing t with
  | nil => rfl
  | cons entry rest ih => exact (ih (t.set entry.1 entry.2)).trans (id_set t _ _)

theorem get_fill (t : Teacher) (typed : List (Field × String)) (field : Field) :
    (t.fill typed).get field = ((typed.reverse.lookup field).map field.held).getD (t.get field) := by
  induction typed generalizing t with
  | nil => rfl
  | cons entry rest ih =>
    obtain ⟨touched, text⟩ := entry
    have later := ih (t.set touched text)
    rw [List.reverse_cons, List.lookup_append]
    -- what is typed later covers what is typed first
    cases found : rest.reverse.lookup field with
    | some covering =>
      rw [found] at later
      exact later
    | none =>
      rw [found] at later
      refine later.trans ?_
      by_cases same : field = touched
      · subst same
        simp [get_set]
      · have other : (field == touched) = false := beq_eq_false_iff_ne.mpr same
        simp [get_set_of_ne t text same, List.lookup_cons, other]

/-- The empty record stays empty exactly if nothing is left of what is typed last into a field. -/
theorem fill_empty_iff (typed : List (Field × String)) : empty.fill typed = empty ↔
    ∀ field text, typed.reverse.lookup field = some text → field.held text = "" := by
  constructor
  · intro same field text last
    have held := get_fill empty typed field
    rw [same, last, get_empty] at held
    exact held.symm
  · intro nothing
    refine eq_of_get (id_fill empty typed) fun field => ?_
    rw [get_fill, get_empty]
    cases last : typed.reverse.lookup field with
    | none => rfl
    | some text => exact nothing field text last

end Teacher

namespace Console

/-- Typing into the form is typing into its draft. -/
theorem typeFields_eq (fields : TypedFields) (c : Controller) :
    typeFields fields c = { c with draft := c.draft.fill fields } := by
  induction fields generalizing c with
  | nil => rfl
  | cons field rest ih => exact ih (c.updateField field.1 field.2)

end Console

end TeacherRegistry
