import Mathlib.Data.List.Forall2
import TeacherRegistry.Client.Shape
import TeacherRegistry.Proofs.TeacherWire

/-!
# Spellings of a record

The same record can be written in many ways. In whatever order its members stand, whatever members
of other names stand among them, and whether an empty field or a missing identifier is written out or
left out: it is read as the same record. What is written for a record has no members of other names.
-/

namespace TeacherRegistry

open Json (Document RawText Value WritesDocument)

namespace Teacher

/-- A member is written with this name, whatever its spelling, and this value. -/
def SpellsMember (written : RawText × Document) (member : String × Document) : Prop :=
  written.1.string? = some member.1 ∧ written.2 = member.2

/-- A text is one object with these members, in the order in which they are written. -/
def WritesMembers (s : String) (members : List (String × Document)) : Prop :=
  ∃ raw, WritesDocument s (.object raw) ∧ List.Forall₂ SpellsMember raw members

/-- Two lists of members say the same about a record. -/
inductive Respells : List (String × Document) → List (String × Document) → Prop
  /-- They stand in another order. -/
  | perm {members later : List (String × Document)} (reordered : members.Perm later) :
    Respells members later
  /-- There is a member more, of a name that means nothing to a record. -/
  | unknown {members : List (String × Document)} {name : String} (d : Document)
    (other : name ∉ labels) : Respells members ((name, d) :: members)
  /-- An empty field is written out. -/
  | emptyField {members : List (String × Document)} (field : Field) {d : Document}
    (missing : field.label ∉ members.map Prod.fst) (empty : d = .null ∨ d = .text []) :
    Respells members ((field.label, d) :: members)
  /-- A missing identifier is written out. -/
  | noId {members : List (String × Document)} (missing : idLabel ∉ members.map Prod.fst) :
    Respells members ((idLabel, .null) :: members)
  | symm {members later : List (String × Document)} (respells : Respells members later) :
    Respells later members
  | trans {members later last : List (String × Document)} (first : Respells members later)
    (second : Respells later last) : Respells members last

/-! ### What is read of the members -/

theorem named?_of_spelled {raw : List (RawText × Document)} {members : List (String × Document)}
    (names : List.Forall₂ SpellsMember raw members) : named? raw = some members := by
  induction names with
  | nil => rfl
  | @cons written member raw members first _ ih =>
    obtain ⟨name, d⟩ := written
    obtain ⟨label, _⟩ := member
    obtain ⟨same, rfl⟩ := first
    simp only [named?, same, ih, bind, Option.bind_some, pure]

/-- A text that writes members is read as they are. -/
theorem ofString?_of_writes {s : String} {members : List (String × Document)}
    (writes : WritesMembers s members) : ofString? s = ofMembers? members := by
  obtain ⟨raw, writes, names⟩ := writes
  rw [ofString?, writes.ofString?, Option.bind_eq_bind, Option.bind_some, ofDocument?,
    named?_of_spelled names, Option.bind_eq_bind, Option.bind_some]

/-- The members under a name. -/
def under (members : List (String × Document)) (label : String) : List (String × Document) :=
  members.filter fun member => member.1 = label

/-- No known name stands there twice. -/
def Once (members : List (String × Document)) : Prop :=
  ∀ label ∈ labels, (under members label).length ≤ 1

theorem ofMembers?_of_not_once {members : List (String × Document)} (repeated : ¬ Once members) :
    ofMembers? members = none := by
  rw [ofMembers?, if_neg]
  simpa [Once, under] using repeated

/-- What is read depends on the parts of a record only, if their names are not repeated. -/
theorem ofMembers?_congr {members later : List (String × Document)} (once : Once members ↔ Once later)
    (id : Once members → readId? (members.lookup idLabel) = readId? (later.lookup idLabel))
    (text : Once members → ∀ field : Field,
      readText? (members.lookup field.label) = readText? (later.lookup field.label)) :
    ofMembers? members = ofMembers? later := by
  by_cases single : Once members
  · have singleLater := once.mp single
    unfold ofMembers?
    rw [if_pos (by simpa [Once, under] using single),
      if_pos (by simpa [Once, under] using singleLater)]
    simp only [ofParts?, id single, text single]
  · rw [ofMembers?_of_not_once single, ofMembers?_of_not_once fun h => single (once.mpr h)]

theorem lookup_eq_head? (members : List (String × Document)) (label : String) :
    members.lookup label = (under members label).head?.map Prod.snd := by
  induction members with
  | nil => rfl
  | cons member members ih =>
    obtain ⟨name, d⟩ := member
    by_cases same : name = label
    · subst same
      simp [under]
    · rw [List.lookup_cons, beq_eq_false_iff_ne.mpr (Ne.symm same), ih]
      simp [under, same]

theorem under_cons_of_ne {name label : String} (different : name ≠ label) (d : Document)
    (members : List (String × Document)) :
    under ((name, d) :: members) label = under members label := by
  simp [under, different]

theorem under_eq_nil {members : List (String × Document)} {label : String}
    (missing : label ∉ members.map Prod.fst) : under members label = [] := by
  simp only [under, List.filter_eq_nil_iff, decide_eq_true_eq]
  rintro member inside rfl
  exact missing (List.mem_map_of_mem inside)

/-- The order of the members does not matter. -/
theorem ofMembers?_perm {members later : List (String × Document)} (reordered : members.Perm later) :
    ofMembers? members = ofMembers? later := by
  have sameUnder (label : String) : (under members label).Perm (under later label) :=
    reordered.filter _
  have once : Once members ↔ Once later := by
    simp only [Once, (sameUnder _).length_eq]
  have sameLookup (single : Once members) {label : String} (known : label ∈ labels) :
      members.lookup label = later.lookup label := by
    have few := single label known
    have same := sameUnder label
    rw [lookup_eq_head?, lookup_eq_head?]
    -- where there is one member at most, there is one order only
    match found : under members label with
    | [] =>
      rw [found] at same
      rw [List.nil_perm.mp same]
    | [member] =>
      rw [found] at same
      rw [List.singleton_perm.mp same]
    | _ :: _ :: _ =>
      rw [found] at few
      simp at few
  exact ofMembers?_congr once
    (fun single => congrArg readId? (sameLookup single (by decide)))
    (fun single field => congrArg readText? (sameLookup single (by cases field <;> decide)))

/-- A member more does not matter if it is none of a record's or says that a part is empty. -/
theorem ofMembers?_cons {members : List (String × Document)} {name : String} {d : Document}
    (missing : name ∈ labels → name ∉ members.map Prod.fst)
    (noId : name = idLabel → readId? (some d) = some none)
    (empty : ∀ field : Field, name = field.label → readText? (some d) = some "") :
    ofMembers? members = ofMembers? ((name, d) :: members) := by
  have lookup_ne {label : String} (different : name ≠ label) :
      members.lookup label = ((name, d) :: members).lookup label := by
    rw [lookup_eq_head?, lookup_eq_head?, under_cons_of_ne different]
  have lookup_eq (known : name ∈ labels) :
      members.lookup name = none ∧ ((name, d) :: members).lookup name = some d := by
    rw [lookup_eq_head?, under_eq_nil (missing known), List.lookup_cons_self]
    exact ⟨rfl, rfl⟩
  -- under its own name it is alone, and no other name is found differently
  refine ofMembers?_congr ?_ (fun _ => ?_) fun _ field => ?_
  · refine forall₂_congr fun label known => ?_
    by_cases same : name = label
    · subst same
      have nothing := under_eq_nil (missing known)
      have one : under ((name, d) :: members) name = [(name, d)] := by
        rw [← nothing]
        simp [under]
      rw [nothing, one]
      simp
    · rw [under_cons_of_ne same]
  · by_cases same : name = idLabel
    · subst same
      obtain ⟨before, after⟩ := lookup_eq (by decide)
      rw [before, after, noId rfl]
      rfl
    · rw [lookup_ne same]
  · by_cases same : name = field.label
    · subst same
      obtain ⟨before, after⟩ := lookup_eq (by cases field <;> decide)
      rw [before, after, empty field rfl]
      rfl
    · rw [lookup_ne same]

/-- Members that say the same are read as the same record, or as none both. -/
theorem Respells.ofMembers? {members later : List (String × Document)}
    (respells : Respells members later) : ofMembers? members = ofMembers? later := by
  induction respells with
  | perm reordered => exact ofMembers?_perm reordered
  | unknown d other =>
    refine ofMembers?_cons (fun known => absurd known other) ?_ ?_
    · rintro rfl
      exact absurd (by decide) other
    · rintro field rfl
      exact absurd (by cases field <;> decide) other
  | emptyField field missing empty =>
    refine ofMembers?_cons (fun _ => missing) ?_ fun _ _ => ?_
    · cases field <;> exact fun same => absurd same (by decide)
    · rcases empty with rfl | rfl <;> rfl
  | noId missing =>
    refine ofMembers?_cons (fun _ => missing) (fun _ => rfl) fun field same => ?_
    cases field <;> exact absurd same (by decide)
  | symm _ ih => exact ih.symm
  | trans _ _ first second => exact first.trans second

/-! ### What is written -/

/-- Members with their values as documents. -/
def documents (members : List (String × Value)) : List (String × Document) :=
  members.map fun entry => (entry.1, entry.2.document)

/-- The text of an object writes its members. -/
theorem writesMembers_text {members : List (String × Value)}
    (whole : (Value.object members).Whole) :
    WritesMembers (Value.object members).text (documents members) := by
  have names (members : List (String × Value)) :
      List.Forall₂ SpellsMember (Value.memberDocuments members) (documents members) := by
    induction members with
    | nil => exact .nil
    | cons entry members ih => exact .cons ⟨Json.string?_rawText _, rfl⟩ ih
  exact ⟨Value.memberDocuments members, whole.writes, names members⟩

/-- A text writes the members of one object only. -/
theorem writesMembers_unique {s : String} {members others : List (String × Document)}
    (writes : WritesMembers s members) (again : WritesMembers s others) : members = others := by
  obtain ⟨raw, writes, names⟩ := writes
  obtain ⟨_, again, otherNames⟩ := again
  cases Option.some.inj (writes.ofString?.symm.trans again.ofString?)
  exact Option.some.inj ((named?_of_spelled names).symm.trans (named?_of_spelled otherNames))

/-- The text of a record writes its members and no others. -/
theorem writesMembers_json_iff (t : Teacher) (written : List (String × Document)) :
    WritesMembers t.json written ↔ written = documents t.members := by
  have writes : WritesMembers t.json (documents t.members) := by
    rw [json, jsonChars_eq]
    exact writesMembers_text t.whole_members
  exact ⟨fun again => writesMembers_unique again writes, fun same => same ▸ writes⟩

theorem names_members (t : Teacher) :
    (documents t.members).map Prod.fst =
      (t.id.map fun _ => idLabel).toList ++ Field.all.map Field.label := by
  unfold members
  cases t.id <;> rfl

theorem decode?_toUTF8 (s : String) :
    Shape.teacher.decode? s.toUTF8 = (ofString? s).map json := by
  rw [Shape.decode?, Document.ofBytes?_toUTF8, ofString?]
  cases Document.ofString? s with
  | none => rfl
  | some d => exact Option.map_map String.ofList jsonChars (ofDocument? d)

/-- What is read from an answer and written again is the text of a record. -/
theorem exists_of_decode {bytes : ByteArray} {text : String}
    (decoded : Shape.teacher.decode? bytes = some text) : ∃ t : Teacher, text = t.json := by
  obtain ⟨chars, read, rfl⟩ := Option.map_eq_some_iff.mp decoded
  obtain ⟨d, _, read⟩ := Option.bind_eq_some_iff.mp read
  obtain ⟨t, _, rfl⟩ := Option.map_eq_some_iff.mp read
  exact ⟨t, rfl⟩

/-- The text of a record is read as this record, and there is an identifier among its members if and
only if the record has one. Texts of objects whose members say the same are read as the same record,
or neither is read. Whatever is read and written again has no members of other names. -/
theorem wire_codec :
    (∀ t : Teacher, ofString? t.json = some t ∧
      ∃ members, (∀ written, WritesMembers t.json written ↔ written = members) ∧
        (idLabel ∈ members.map Prod.fst ↔ t.id.isSome)) ∧
    (∀ (s later : String) (members others : List (String × Document)), WritesMembers s members →
      WritesMembers later others → Respells members others → ofString? s = ofString? later) ∧
    ∀ (bytes : ByteArray) (text : String), Shape.teacher.decode? bytes = some text →
      ∃ members, (∀ written, WritesMembers text written ↔ written = members) ∧
        ∀ name ∈ members.map Prod.fst, name ∈ labels := by
  refine ⟨fun t => ⟨t.reread, _, writesMembers_json_iff t, ?_⟩, ?_, ?_⟩
  · rw [names_members]
    cases t.id with
    | none => decide
    | some id => simp
  · intro s later members others writes again respells
    rw [ofString?_of_writes writes, ofString?_of_writes again, respells.ofMembers?]
  · intro bytes text decoded
    obtain ⟨t, rfl⟩ := exists_of_decode decoded
    refine ⟨_, writesMembers_json_iff t, fun name listed => ?_⟩
    rw [names_members] at listed
    rcases List.mem_append.mp listed with identifier | field
    · obtain ⟨_, _, rfl⟩ := Option.map_eq_some_iff.mp (Option.mem_toList.mp identifier)
      exact List.mem_cons_self
    · exact List.mem_cons_of_mem _ field

/-- The members of an object that says little about a record, and more that means nothing to it. -/
def sparseMembers : List (String × Value) :=
  [("cursos", .array [.object [("id", .number (.integer 3)), ("id", .object [])], .array []]),
    ("email", .null), ("id", .null), ("nombre", .string "Ana")]

example : (Value.object sparseMembers).text =
    "\x7b\"cursos\":[\x7b\"id\":3,\"id\":\x7b\x7d\x7d,[]]," ++
      "\"email\":null,\"id\":null,\"nombre\":\"Ana\"\x7d" := by
  rfl

theorem whole_sparseMembers : (Value.object sparseMembers).Whole := by
  have courses : (Value.object [("id", .number (.integer 3)), ("id", .object [])]).Whole :=
    .object _ (by simp [Value.Whole.integer, Value.Whole.object])
  refine .object _ ?_
  simp [sparseMembers, Value.Whole.null, Value.Whole.string, Value.Whole.array, courses]

/-- A record with a name and nothing else. -/
def sparse : Teacher := ⟨none, "", "Ana", "", ""⟩

theorem respells_sparse :
    Respells (documents sparse.members) (documents sparseMembers) := by
  -- both are the name alone with members written out that could have been left out
  have full : Respells [("nombre", (Value.string "Ana").document)]
      (documents sparse.members) :=
    ((Respells.emptyField .specialty (by decide) (.inr rfl)).trans
      (.emptyField .email (by decide) (.inr rfl))).trans
      ((Respells.emptyField .idNumber (by decide) (.inr rfl)).trans
        (.perm (.cons _ (@List.perm_append_comm _ [_, _] [_]))))
  have other : Respells [("nombre", (Value.string "Ana").document)]
      (documents sparseMembers) :=
    (Respells.noId (by decide)).trans
      ((Respells.emptyField .email (by decide) (.inl rfl)).trans (.unknown _ (by decide)))
  exact full.symm.trans other

theorem wire_codec_sparse :
    ofString? (Value.object sparseMembers).text = some sparse ∧
      ∃ members, (∀ written, WritesMembers sparse.json written ↔ written = members) ∧
        ∀ name ∈ members.map Prod.fst, name ∈ labels := by
  obtain ⟨same, spelled, known⟩ := wire_codec
  have read : ofString? (Value.object sparseMembers).text = some sparse := by
    rw [← (same sparse).1]
    exact (spelled _ _ _ _ ((writesMembers_json_iff sparse _).mpr rfl)
      (writesMembers_text whole_sparseMembers) respells_sparse).symm
  refine ⟨read, known (Value.object sparseMembers).text.toUTF8 sparse.json ?_⟩
  rw [decode?_toUTF8, read, Option.map_some]

end Teacher

end TeacherRegistry
