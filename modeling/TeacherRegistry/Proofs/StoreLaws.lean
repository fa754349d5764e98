import Mathlib.Data.List.Forall2
import TeacherRegistry.Proofs.DiskWriting
import TeacherRegistry.Proofs.JsonRoundTrip
import TeacherRegistry.Store

/-!
# What the operations of a store do to its entries

A store in a file reads back the entries that it wrote, so its operations are those of a dictionary
as long as its file can be read and written. A file that cannot be understood has no entries: texts
are not put there, and a removal makes it an empty store.
-/

namespace TeacherRegistry.Store

/-! ### The bytes of a file -/

/-- The pairs that the members of an object of texts hold, `pairs` being in the order in which they
are written. -/
def HoldsPairs (members : List (Json.RawText × Json.Document))
    (pairs : List (String × String)) : Prop :=
  List.Forall₂ (fun member pair => member.1.string? = some pair.1 ∧
    ∃ units, member.2 = .text units ∧ units.string? = some pair.2) members pairs

theorem textMembers?_iff (members : List (Json.RawText × Json.Document))
    (pairs : List (String × String)) :
    textMembers? members = some pairs ↔ HoldsPairs members pairs := by
  unfold HoldsPairs
  constructor
  · intro read
    induction members generalizing pairs with
    | nil =>
      cases read
      exact .nil
    | cons member rest ih =>
      obtain ⟨name, value⟩ := member
      cases value with
      | text units =>
        obtain ⟨key, readKey, read⟩ := Option.bind_eq_some_iff.mp read
        obtain ⟨text, readText, read⟩ := Option.bind_eq_some_iff.mp read
        obtain ⟨others, readOthers, read⟩ := Option.bind_eq_some_iff.mp read
        cases read
        exact .cons ⟨readKey, units, rfl, readText⟩ (ih others readOthers)
      | _ => cases read
  · intro holds
    induction holds with
    | nil => rfl
    | @cons member pair members pairs first _ ih =>
      obtain ⟨name, value⟩ := member
      obtain ⟨readKey, units, rfl, readText⟩ := first
      simp only [textMembers?, readKey, readText, ih, bind, Option.bind_some, pure]

theorem sorted_of_decode? {bytes : ByteArray} {d : Dictionary String}
    (read : decode? bytes = some d) : Dictionary.Sorted d := by
  unfold decode? at read
  split at read
  · cases read
    exact Dictionary.sorted_nil
  · split at read
    · obtain ⟨pairs, _, rfl⟩ := Option.map_eq_some_iff.mp read
      exact Dictionary.sorted_ofList pairs
    · cases read

private theorem textMembers?_ofEntries (d : Dictionary String) :
    textMembers? (Json.Value.memberDocuments (d.map fun entry => (entry.1, .string entry.2))) =
      some d := by
  induction d with
  | nil => rfl
  | cons entry rest ih =>
    rw [List.map_cons, Json.Value.memberDocuments, Json.Value.document, textMembers?]
    simp only [Json.string?_rawText, ih, bind, Option.bind_some, pure]

private theorem isEmpty_encode (d : Dictionary String) : (encode d).isEmpty = false := by
  -- even the empty dictionary is written as two braces
  have filled : Json.entryLines d ≠ [] := by cases d <;> exact List.cons_ne_nil _ _
  have size : (encode d).size ≠ 0 := by
    intro none
    have empty : String.ofList (Json.entryLines d) = "" := String.utf8ByteSize_eq_zero_iff.mp none
    apply filled
    rw [← String.toList_ofList (l := Json.entryLines d), empty]
    rfl
  simpa [ByteArray.isEmpty] using size

/-- What is written is read back. -/
theorem decode?_encode {d : Dictionary String} (sorted : Dictionary.Sorted d) :
    decode? (encode d) = some d := by
  have read : Json.Document.ofBytes? (encode d) = some (Json.Value.ofEntries d).document := by
    rw [encode, Json.Document.ofBytes?_toUTF8]
    exact (Json.writes_entryLines d).ofString?
  simp only [decode?, isEmpty_encode, Bool.false_eq_true, if_false, read, Json.Value.ofEntries,
    Json.Value.document]
  rw [textMembers?_ofEntries, Option.map_some, Dictionary.ofList_of_sorted sorted]

/-! ### Stores without input and output errors -/

section File

variable {path : String} {disk : Disk}

theorem entries_missing (reading : disk.read path = .missing) :
    (Store.file path disk).entries = .ok [] := by
  simp only [entries, reading]

theorem entries_failed (reading : disk.read path = .failed) :
    (Store.file path disk).entries = .error .unreadable := by
  simp only [entries, reading]

theorem entries_content {bytes : ByteArray} (reading : disk.read path = .content bytes) :
    (Store.file path disk).entries = (decode? bytes).elim (.error .corrupt) .ok := by
  simp only [entries, reading]

end File

/-- Nothing keeps the store from being read and written: it is in memory, or its file is there for
both. What the file holds does not matter. -/
def Serves : Store → Prop
  | .memory _ => True
  | .file path disk => disk.Serves path

/-- The entries of a store, none if they cannot be understood. -/
def contents (store : Store) : Dictionary String :=
  match store.entries with
  | .ok entries => entries
  | .error _ => []

theorem contents_of_entries {store : Store} {d : Dictionary String}
    (readable : store.entries = .ok d) : store.contents = d := by
  rw [contents, readable]

/-- Without input and output errors a store has entries, or is corrupt. -/
theorem Serves.entries_cases {store : Store} (serves : store.Serves) :
    store.entries = .ok store.contents ∨
      (store.entries = .error .corrupt ∧ store.contents = []) := by
  unfold contents
  cases store with
  | memory d => exact Or.inl rfl
  | file path disk =>
    cases reading : disk.read path with
    | missing => exact Or.inl (by rw [entries_missing reading])
    | failed => exact absurd reading serves.readable
    | content bytes =>
      rw [entries_content reading]
      cases decode? bytes with
      | some d => exact Or.inl rfl
      | none => exact Or.inr ⟨rfl, rfl⟩

/-- A change that went through: the store serves on, and has these entries. -/
structure Change.Leaves (change : Change) (d : Dictionary String) : Prop where
  outcome : change.outcome = .ok ()
  serves : change.store.Serves
  entries : change.store.entries = .ok d

private theorem sorted_of_entries {path : String} {disk : Disk} {d : Dictionary String}
    (readable : (Store.file path disk).entries = .ok d) : Dictionary.Sorted d := by
  cases reading : disk.read path with
  | missing =>
    rw [entries_missing reading] at readable
    cases readable
    exact Dictionary.sorted_nil
  | failed =>
    rw [entries_failed reading] at readable
    cases readable
  | content bytes =>
    rw [entries_content reading] at readable
    cases read : decode? bytes with
    | none =>
      rw [read] at readable
      cases readable
    | some held =>
      rw [read] at readable
      cases readable
      exact sorted_of_decode? read

/-- Entries in order that are put in place of others are there afterwards. -/
private theorem replace_leaves {store : Store} (serves : store.Serves) {d : Dictionary String}
    (ordered : ∀ path disk, store = .file path disk → Dictionary.Sorted d) :
    (store.replace d).Leaves d := by
  cases store with
  | memory _ => exact ⟨rfl, trivial, rfl⟩
  | file path disk =>
    obtain ⟨serves', reads⟩ := Disk.Serves.write serves (encode d)
    have written := Disk.Serves.writable serves (encode d)
    cases result : disk.write path (encode d) with
    | mk done disk' =>
      rw [result] at serves' reads written
      subst written
      simp only [replace, result]
      refine ⟨rfl, serves', ?_⟩
      rw [entries_content reads, decode?_encode (ordered path disk rfl), Option.elim_some]

/-- Putting a text under a key of a store that can be understood. -/
theorem set_leaves {store : Store} (serves : store.Serves) {d : Dictionary String}
    (readable : store.entries = .ok d) (key value : String) :
    (store.set key value).Leaves (d.insert key value) := by
  rw [set, readable]
  apply replace_leaves serves
  rintro path disk rfl
  exact Dictionary.sorted_insert (sorted_of_entries readable) key value

/-- Where a store cannot be understood, nothing is put. -/
theorem set_of_error {store : Store} {e : Error} (unreadable : store.entries = .error e)
    (key value : String) : store.set key value = ⟨.error e, store, []⟩ := by
  rw [set, unreadable]

/-- Removing a key. -/
theorem remove_leaves {store : Store} (serves : store.Serves) (key reason : String) :
    (store.remove key reason).Leaves (store.contents.erase key) := by
  rcases serves.entries_cases with readable | ⟨corrupt, none⟩
  · rw [remove, readable]
    simp only
    split
    · apply replace_leaves serves
      rintro path disk rfl
      exact Dictionary.sorted_erase (sorted_of_entries readable) key
    -- nothing is written when the key is not there
    next absent =>
      have absent : store.contents.get? key = none := by simpa using absent
      rw [Dictionary.erase_of_absent absent]
      exact ⟨rfl, serves, readable⟩
  -- a corrupt store is given up, and the empty one that takes its place lacks the key
  · have leaves := replace_leaves serves (d := []) fun _ _ _ => Dictionary.sorted_nil
    rw [remove, corrupt, none]
    exact ⟨leaves.outcome, leaves.serves, leaves.entries⟩

/-! ### The text under a key -/

theorem get?_of_entries {store : Store} {d : Dictionary String} (readable : store.entries = .ok d)
    (key : String) : store.get? key = .ok (d.get? key) := by
  rw [get?, readable]
  rfl

/-- A store that has given up a session has lost the token and the profile only. -/
theorem get?_of_given_up {before after : Store}
    (entries : after.entries = .ok ((before.contents.erase tokenKey).erase userKey)) :
    after.get? tokenKey = .ok none ∧ after.get? userKey = .ok none ∧
      ∀ key, key ≠ tokenKey → key ≠ userKey →
        after.get? key = .ok (before.contents.get? key) := by
  have look : ∀ key, after.get? key = .ok (if userKey = key then none
      else if tokenKey = key then none else before.contents.get? key) := by
    intro key
    rw [get?_of_entries entries, Dictionary.get?_erase, Dictionary.get?_erase]
  refine ⟨?_, by rw [look, if_pos rfl], ?_⟩
  · rw [look, if_neg (by decide), if_pos rfl]
  · intro key notToken notUser
    rw [look, if_neg (Ne.symm notUser), if_neg (Ne.symm notToken)]

end TeacherRegistry.Store
