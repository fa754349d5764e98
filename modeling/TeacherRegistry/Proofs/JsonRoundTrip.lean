import TeacherRegistry.Proofs.DictionaryOrder
import TeacherRegistry.Proofs.JsonLexing

/-!
# Reading back what was written

The document of a value means the value again, as long as its numbers are whole and it is as deep
and as ordered as values that were read. Every value that was read is.
-/

namespace TeacherRegistry.Json

/-- The compact text of a value holds its document. -/
theorem Value.Whole.ofString?_chars {v : Value} (whole : v.Whole) :
    Document.ofString? (String.ofList v.chars) = some v.document :=
  whole.writes.ofString?

/-! ### From documents to values -/

/-- The values that can have been read with room for some containers inside one another: objects
are ordered, and whole numbers fit 64 bits. -/
inductive Value.Fits : Nat → Value → Prop
  | null (room : Nat) : Fits room .null
  | bool (room : Nat) (b : Bool) : Fits room (.bool b)
  | integer (room : Nat) (n : Int) (low : -Text.int64Bound ≤ n) (high : n < UInt64.size) :
    Fits room (.number (.integer n))
  | real (room : Nat) (x : Binary64) : Fits room (.number (.real x))
  | string (room : Nat) (s : String) : Fits room (.string s)
  | array (room : Nat) (items : List Value) (each : ∀ item ∈ items, Fits room item) :
    Fits (room + 1) (.array items)
  | object (room : Nat) (members : List (String × Value)) (sorted : Dictionary.Sorted members)
    (each : ∀ entry ∈ members, Fits room entry.2) : Fits (room + 1) (.object members)

theorem value_toDigits (n : Nat) : Numeral.value (Nat.toDigits 10 n) = n := by
  -- the library folds the digits with the factor in front
  have step : (fun value (c : Char) => value * 10 + (c.toNat - '0'.toNat)) =
      fun value c => 10 * value + (c.toNat - '0'.toNat) := by
    funext value c
    rw [Nat.mul_comm]
  rw [Numeral.value, step, ← Nat.ofDigitChars_eq_foldl]
  exact Nat.ofDigitChars_ten_toDigits

theorem Numeral.integer?_ofInt {n : Int} (low : -Text.int64Bound ≤ n) (high : n < UInt64.size) :
    (Numeral.ofInt n).integer? = some n := by
  unfold Text.int64Bound at low
  unfold UInt64.size at high
  by_cases negative : n < 0
  · have inRange : 0 < n.natAbs ∧ n.natAbs ≤ Text.int64Bound.toNat := by
      unfold Text.int64Bound
      omega
    have same : -(n.natAbs : Int) = n := by omega
    simp only [Numeral.integer?, Numeral.ofInt, Numeral.isWhole, value_toDigits, negative]
    rw [if_neg (by decide), if_pos (by decide), if_pos inRange, same]
  · have inRange : n.natAbs < UInt64.size := by
      unfold UInt64.size
      omega
    have same : (n.natAbs : Int) = n := by omega
    simp only [Numeral.integer?, Numeral.ofInt, Numeral.isWhole, value_toDigits, negative]
    rw [if_neg (by decide), if_neg (by decide), if_pos inRange, same]

theorem Numeral.integer?_bounds {n : Numeral} {i : Int} (read : n.integer? = some i) :
    -Text.int64Bound ≤ i ∧ i < UInt64.size := by
  unfold Numeral.integer? Text.int64Bound UInt64.size at *
  dsimp only at read
  split at read
  · cases read
  -- negative numbers are bounded below, all others above
  · split at read
    · split at read
      · cases read
        omega
      · cases read
    · split at read
      · cases read
        omega
      · cases read

private theorem fits_number (room : Nat) {n : Numeral} {x : Number} (read : n.number? = some x) :
    Value.Fits room (.number x) := by
  unfold Numeral.number? at read
  split at read
  next i whole =>
    cases read
    have bounds := Numeral.integer?_bounds whole
    exact .integer room i bounds.1 bounds.2
  next _ =>
    obtain ⟨real, _, rfl⟩ := Option.map_eq_some_iff.mp read
    exact .real room real

mutual

/-- What a document means fits the room that it was read with. -/
theorem Value.fits_of_valueWithin? (room : Nat) (d : Document) (v : Value)
    (read : d.valueWithin? room = some v) : v.Fits room := by
  cases d with
  | null => cases read; exact .null room
  | bool b => cases read; exact .bool room b
  | numeral n =>
    obtain ⟨x, number, rfl⟩ := Option.map_eq_some_iff.mp read
    exact fits_number room number
  | text units =>
    obtain ⟨s, _, rfl⟩ := Option.map_eq_some_iff.mp read
    exact .string room s
  | array items =>
    cases room with
    | zero => cases read
    | succ room =>
      obtain ⟨values, each, rfl⟩ := Option.map_eq_some_iff.mp read
      exact .array room values (fits_of_valuesWithin? room items values each)
  | object members =>
    cases room with
    | zero => cases read
    | succ room =>
      obtain ⟨entries, each, rfl⟩ := Option.map_eq_some_iff.mp read
      exact .object room _ (Dictionary.sorted_ofList entries) fun entry member =>
        fits_of_membersWithin? room members entries each entry
          (Dictionary.mem_of_mem_ofList member)

theorem fits_of_valuesWithin? (room : Nat) (items : List Document) (values : List Value)
    (read : Document.valuesWithin? room items = some values) :
    ∀ v ∈ values, v.Fits room := by
  cases items with
  | nil => cases read; exact fun v member => absurd member List.not_mem_nil
  | cons item rest =>
    obtain ⟨first, readFirst, read⟩ := Option.bind_eq_some_iff.mp read
    obtain ⟨others, readOthers, read⟩ := Option.bind_eq_some_iff.mp read
    cases read
    intro v member
    rcases List.mem_cons.mp member with rfl | member
    · exact Value.fits_of_valueWithin? room item v readFirst
    · exact fits_of_valuesWithin? room rest others readOthers v member

theorem fits_of_membersWithin? (room : Nat) (members : List (RawText × Document))
    (entries : List (String × Value))
    (read : Document.membersWithin? room members = some entries) :
    ∀ entry ∈ entries, entry.2.Fits room := by
  cases members with
  | nil => cases read; exact fun entry member => absurd member List.not_mem_nil
  | cons member rest =>
    obtain ⟨name, item⟩ := member
    obtain ⟨label, _, read⟩ := Option.bind_eq_some_iff.mp read
    obtain ⟨first, readFirst, read⟩ := Option.bind_eq_some_iff.mp read
    obtain ⟨others, readOthers, read⟩ := Option.bind_eq_some_iff.mp read
    cases read
    intro entry member
    rcases List.mem_cons.mp member with rfl | member
    · exact Value.fits_of_valueWithin? room item first readFirst
    · exact fits_of_membersWithin? room rest others readOthers entry member

end

private theorem valuesWithin?_documents (room : Nat) (items : List Value)
    (each : ∀ item ∈ items, item.document.valueWithin? room = some item) :
    Document.valuesWithin? room (Value.itemDocuments items) = some items := by
  induction items with
  | nil => rfl
  | cons item rest ih =>
    simp only [Value.itemDocuments, Document.valuesWithin?, each item List.mem_cons_self,
      ih fun item member => each item (List.mem_cons_of_mem _ member), bind, Option.bind_some, pure]

/-- Members are read back one by one, whatever their order. -/
theorem membersWithin?_documents (room : Nat) (members : List (String × Value))
    (each : ∀ entry ∈ members, entry.2.document.valueWithin? room = some entry.2) :
    Document.membersWithin? room (Value.memberDocuments members) = some members := by
  induction members with
  | nil => rfl
  | cons entry rest ih =>
    obtain ⟨name, item⟩ := entry
    have read : item.document.valueWithin? room = some item := each (name, item) List.mem_cons_self
    simp only [Value.memberDocuments, Document.membersWithin?, string?_rawText, read,
      ih fun entry member => each entry (List.mem_cons_of_mem _ member), bind, Option.bind_some, pure]

/-- The document of a value means the value. -/
theorem Value.Fits.valueWithin?_document {room : Nat} {v : Value} (fits : v.Fits room)
    (whole : v.Whole) : v.document.valueWithin? room = some v := by
  -- the order of members and the bounds of numbers come from the room, wholeness from the other side
  induction fits with
  | null | bool => rfl
  | integer room n low high =>
    simp only [Value.document, Document.valueWithin?, Numeral.number?,
      Numeral.integer?_ofInt low high, Option.map_some]
  | real room x => cases whole
  | string room s =>
    simp only [Value.document, Document.valueWithin?, string?_rawText, Option.map_some]
  | array room items _ ih =>
    cases whole with
    | array _ whole =>
      simp only [Value.document, Document.valueWithin?,
        valuesWithin?_documents room items fun item member => ih item member (whole item member),
        Option.map_some]
  | object room members sorted _ ih =>
    cases whole with
    | object _ whole =>
      simp only [Value.document, Document.valueWithin?,
        membersWithin?_documents room members fun entry member =>
          ih entry member (whole entry member),
        Option.map_some, Dictionary.ofList_of_sorted sorted]

/-- A value that could have been read is read back from its compact text. -/
theorem Value.Fits.ofString?_text {v : Value} (fits : v.Fits depthLimit) (whole : v.Whole) :
    Value.ofString? v.text = some v := by
  rw [Value.ofString?, Value.text, whole.ofString?_chars, Option.bind_eq_bind, Option.bind_some]
  exact fits.valueWithin?_document whole

end TeacherRegistry.Json
