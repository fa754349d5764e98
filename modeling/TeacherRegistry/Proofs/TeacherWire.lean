import TeacherRegistry.Proofs.DictionaryOrder
import TeacherRegistry.Proofs.JsonRoundTrip
import TeacherRegistry.Teacher.Json

/-!
# What a record is on the wire

The text that is sent for a record holds a JSON object of its fields, with the identifier among its
members if the record has one, and without a member of that name if it has none. Whoever reads it as
a record has the same record again.
-/

namespace TeacherRegistry

open Json (Value depthLimit)

/-- An identifier as a JSON value. -/
def TeacherId.value : TeacherId → Value
  | .number n => .number (.integer n.toInt)
  | .text s => .string s

namespace Teacher

/-- The members that are written for a record, in their order. -/
def members (t : Teacher) : List (String × Value) :=
  (t.id.map fun id => (idLabel, id.value)).toList ++
    Field.all.map fun field => (field.label, .string (t.get field))

private theorem intercalate_members (first : String × Value) (rest : List (String × Value)) :
    [','].intercalate ((first :: rest).map fun entry => memberChars entry.1 entry.2.chars) =
      memberChars first.1 first.2.chars ++ Value.membersChars rest := by
  induction rest generalizing first with
  | nil => simp [Value.membersChars]
  | cons second rest ih =>
    have later := ih second
    rw [List.map_cons] at later
    rw [List.map_cons, List.map_cons, List.intercalate_cons_cons, later]
    simp [Value.membersChars, memberChars]

private theorem chars_object {members : List (String × Value)} (filled : members ≠ []) :
    '\x7b' :: [','].intercalate (members.map fun entry => memberChars entry.1 entry.2.chars)
      ++ ['\x7d'] = (Value.object members).chars := by
  cases members with
  | nil => exact absurd rfl filled
  | cons first rest =>
    rw [intercalate_members]
    simp [Value.chars, memberChars]

theorem jsonChars_eq (t : Teacher) : t.jsonChars = (Value.object t.members).chars := by
  rw [← chars_object (by simp [members, Field.all])]
  unfold jsonChars members
  cases t.id with
  | none => rfl
  | some id => cases id <;> rfl

private theorem fits_of_member (t : Teacher) (room : Nat) :
    ∀ entry ∈ t.members, entry.2.Fits room ∧ entry.2.Whole := by
  intro entry member
  rcases List.mem_append.mp member with identifier | field
  · obtain ⟨id, _, rfl⟩ := Option.map_eq_some_iff.mp (Option.mem_toList.mp identifier)
    -- a number among the identifiers has 64 bits, so it is read as it was written
    cases id with
    | number n =>
      have low := n.le_toInt
      have high := n.toInt_lt
      exact ⟨.integer room _ low (by unfold UInt64.size; omega), .integer _⟩
    | text s => exact ⟨.string room s, .string s⟩
  · obtain ⟨label, _, rfl⟩ := List.mem_map.mp field
    exact ⟨.string room _, .string _⟩

theorem whole_members (t : Teacher) : (Value.object t.members).Whole :=
  .object t.members fun entry member => (t.fits_of_member 0 entry member).2

/-- The text of a record is that of an object with its members. -/
theorem ofString?_json (t : Teacher) :
    Value.ofString? t.json = some (.object (Dictionary.ofList t.members)) := by
  have whole := t.whole_members
  -- within an object there is room for one level less
  have read : Json.Document.membersWithin? 126 (Value.memberDocuments t.members) = some t.members :=
    Json.membersWithin?_documents 126 t.members fun entry member =>
      let ⟨fits, whole⟩ := t.fits_of_member 126 entry member
      fits.valueWithin?_document whole
  rw [Value.ofString?, json, jsonChars_eq, whole.ofString?_chars, Option.bind_eq_bind,
    Option.bind_some, Json.Document.value?, Value.document, depthLimit,
    Json.Document.valueWithin?, read, Option.map_some]

/-- The identifier among the members that are read. -/
theorem get?_members (t : Teacher) :
    Dictionary.get? (Dictionary.ofList t.members) idLabel = t.id.map TeacherId.value := by
  rw [Dictionary.get?_ofList, members]
  cases t.id with
  | none => rfl
  | some id => rfl

/-! ### Reading a record -/

/-- The names of written members are read as they are. -/
theorem named?_documents (members : List (String × Value)) :
    named? (Value.memberDocuments members) =
      some (members.map fun entry => (entry.1, entry.2.document)) := by
  induction members with
  | nil => rfl
  | cons entry rest ih =>
    obtain ⟨name, item⟩ := entry
    simp only [Value.memberDocuments, named?, Json.string?_rawText, ih, bind, Option.bind_some, pure,
      List.map_cons]

private theorem ofDocument?_id (id : TeacherId) :
    TeacherId.ofDocument? id.value.document = some id := by
  cases id with
  | number n =>
    have low := n.le_toInt
    have high := n.toInt_lt
    -- numbers of 64 bits are numerals, and the numerals between their bounds are numbers
    have whole : (Json.Numeral.ofInt n.toInt).integer? = some n.toInt :=
      Json.Numeral.integer?_ofInt low (by unfold UInt64.size; omega)
    have bounds : -Text.int64Bound ≤ n.toInt ∧ n.toInt < Text.int64Bound := ⟨low, high⟩
    simp only [TeacherId.value, Value.document, TeacherId.ofDocument?, whole, Option.filter_some,
      decide_eq_true bounds, if_true, Option.map_some, Int64.ofInt_toInt]
  | text s =>
    simp only [TeacherId.value, Value.document, TeacherId.ofDocument?, Json.string?_rawText,
      Option.map_some]

private theorem readId?_document (id : TeacherId) :
    readId? (some id.value.document) = some (some id) := by
  have read := ofDocument?_id id
  cases id <;> exact congrArg (Option.map some) read

/-- The members of a written record, as they are found by whoever reads it. -/
private def parts (t : Teacher) : List (String × Json.Document) :=
  t.members.map fun entry => (entry.1, entry.2.document)

private theorem lookup_id (t : Teacher) :
    t.parts.lookup idLabel = t.id.map fun id => id.value.document := by
  unfold parts members
  cases t.id <;> rfl

private theorem lookup_field (t : Teacher) (field : Field) :
    t.parts.lookup field.label = some (.text (Json.rawText (t.get field))) := by
  unfold parts members
  -- no field is called as the identifier is
  cases t.id <;> cases field <;> rfl

private theorem parts_once (t : Teacher) :
    (labels.all fun label => (t.parts.filter fun part => part.1 = label).length ≤ 1) = true := by
  unfold parts members
  cases t.id <;> rfl

private theorem ofMembers?_parts (t : Teacher) : ofMembers? t.parts = some t := by
  have read : ∀ field : Field, readText? (t.parts.lookup field.label) = some (t.get field) := by
    intro field
    rw [lookup_field]
    exact Json.string?_rawText _
  have identifier : readId? (t.parts.lookup idLabel) = some t.id := by
    rw [lookup_id]
    cases t.id with
    | none => rfl
    | some id => exact readId?_document id
  rw [ofMembers?, if_pos t.parts_once]
  simp only [ofParts?, identifier, read, bind, Option.bind_some, pure]
  rfl

/-- The text of a record is read as this record. -/
theorem reread (t : Teacher) : ofString? t.json = some t := by
  rw [ofString?, json, jsonChars_eq, t.whole_members.ofString?_chars, Option.bind_eq_bind,
    Option.bind_some, Value.document, ofDocument?, named?_documents, Option.bind_eq_bind,
    Option.bind_some, ← parts, ofMembers?_parts]

end Teacher

end TeacherRegistry
