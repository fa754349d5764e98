import TeacherRegistry.Proofs.StoreLaws

/-!
# A store in a file behaves as one in memory

Two stores that have the same entries give the same results to the same operations, and have the
same entries afterwards. What the bytes of a file denote is said without its reader: nothing, or the
last text that a JSON object of texts has under each name.
-/

namespace TeacherRegistry.Store

/-! ### What a file denotes -/

/-- What is found under the path of a file, as a dictionary of texts. -/
inductive Denotes : Disk.Reading → Dictionary String → Prop
  | missing : Denotes .missing []
  | empty {bytes : ByteArray} (none : bytes.size = 0) : Denotes (.content bytes) []
  /-- Of several texts under one name the last counts. -/
  | object {bytes : ByteArray} {members : List (Json.RawText × Json.Document)}
    {pairs : List (String × String)} {d : Dictionary String}
    (written : Json.Document.ofBytes? bytes = some (.object members))
    (holds : HoldsPairs members pairs) (sorted : Dictionary.Sorted d)
    (last : ∀ key, d.get? key = pairs.reverse.lookup key) : Denotes (.content bytes) d

private theorem eq_empty_of_isEmpty {bytes : ByteArray} (empty : bytes.isEmpty = true) :
    bytes = ByteArray.empty := by
  have size : bytes.size = 0 := by simpa [ByteArray.isEmpty] using empty
  exact ByteArray.size_eq_zero_iff.mp size

/-- The texts that are read off an object make up what it denotes. -/
theorem denotes_members {bytes : ByteArray} {members : List (Json.RawText × Json.Document)}
    {pairs : List (String × String)} (written : Json.Document.ofBytes? bytes = some (.object members))
    (read : textMembers? members = some pairs) :
    Denotes (.content bytes) (Dictionary.ofList pairs) :=
  .object written ((textMembers?_iff members pairs).mp read) (Dictionary.sorted_ofList pairs)
    fun key => Dictionary.get?_ofList pairs key

theorem denotes_content_iff (bytes : ByteArray) (d : Dictionary String) :
    Denotes (.content bytes) d ↔ decode? bytes = some d := by
  -- no bytes hold no document, so at most one of the two readings applies
  by_cases empty : bytes.isEmpty = true
  · have none := eq_empty_of_isEmpty empty
    subst none
    constructor
    · intro denotes
      cases denotes with
      | empty => rfl
      | object written => cases written
    · intro read
      cases read
      exact .empty rfl
  · simp only [decode?, empty, Bool.false_eq_true, if_false]
    constructor
    · intro denotes
      cases denotes with
      | empty none => simp [ByteArray.isEmpty, none] at empty
      | @object _ members pairs _ written holds sorted last =>
        -- both are in order and hold the last text under each key
        have collected : Dictionary.ofList pairs = d :=
          (Dictionary.sorted_ofList pairs).ext sorted fun key => by
            rw [Dictionary.get?_ofList, last]
        rw [written]
        simp only [(textMembers?_iff members pairs).mpr holds, Option.map_some, collected]
    · intro read
      split at read
      next members written =>
        obtain ⟨pairs, readPairs, rfl⟩ := Option.map_eq_some_iff.mp read
        exact denotes_members written readPairs
      · cases read

theorem denotes_iff (path : String) (disk : Disk) (d : Dictionary String) :
    Denotes (disk.read path) d ↔ (Store.file path disk).entries = .ok d := by
  cases reading : disk.read path with
  | missing =>
    rw [entries_missing reading]
    constructor
    · intro denotes
      cases denotes
      rfl
    · intro same
      cases same
      exact .missing
  | failed =>
    rw [entries_failed reading]
    constructor
    · intro denotes
      cases denotes
    · intro impossible
      cases impossible
  | content bytes =>
    rw [denotes_content_iff, entries_content reading]
    cases decode? bytes with
    | none => simp
    | some held => simp

/-! ### Runs of operations -/

inductive Operation where
  | get (key : String)
  | set (key value : String)
  | remove (key : String)
  /-- The store is opened anew in its place. -/
  | reopen
deriving Repr, DecidableEq

/-- What an operation gives. -/
inductive Result where
  | found (text : Except Error (Option String))
  | changed (outcome : Except Error Unit)
  | reopened

/-- The store that is found in the place of a store. One in a file is known by its path; one in
memory is the same as long as it lasts. -/
def reopen : Store → Store
  | .memory entries => .memory entries
  | .file path disk => .file path disk

def perform (store : Store) : Operation → Result × Store
  | .get key => (.found (store.get? key), store)
  | .set key value =>
    let change := store.set key value
    (.changed change.outcome, change.store)
  | .remove key =>
    let change := store.remove key
    (.changed change.outcome, change.store)
  | .reopen => (.reopened, store.reopen)

def performAll (store : Store) : List Operation → List Result × Store
  | [] => ([], store)
  | operation :: rest =>
    let (result, next) := store.perform operation
    let (results, last) := performAll next rest
    (result :: results, last)

private theorem reopen_eq (store : Store) : store.reopen = store := by
  cases store <;> rfl

/-- An operation on two stores with the same entries gives the same, and leaves them with the same
entries. -/
private theorem perform_agrees {left right : Store} (leftServes : left.Serves)
    (rightServes : right.Serves) {d : Dictionary String} (leftEntries : left.entries = .ok d)
    (rightEntries : right.entries = .ok d) (operation : Operation) :
    (left.perform operation).1 = (right.perform operation).1 ∧
      (left.perform operation).2.Serves ∧ (right.perform operation).2.Serves ∧
      ∃ d', (left.perform operation).2.entries = .ok d' ∧
        (right.perform operation).2.entries = .ok d' := by
  cases operation with
  | get key =>
    refine ⟨?_, leftServes, rightServes, d, leftEntries, rightEntries⟩
    simp only [perform, get?_of_entries leftEntries, get?_of_entries rightEntries]
  | set key value =>
    have leftLeaves := set_leaves leftServes leftEntries key value
    have rightLeaves := set_leaves rightServes rightEntries key value
    refine ⟨?_, leftLeaves.serves, rightLeaves.serves, _, leftLeaves.entries, rightLeaves.entries⟩
    simp only [perform, leftLeaves.outcome, rightLeaves.outcome]
  | remove key =>
    have leftLeaves := remove_leaves leftServes key ""
    have rightLeaves := remove_leaves rightServes key ""
    rw [contents_of_entries leftEntries] at leftLeaves
    rw [contents_of_entries rightEntries] at rightLeaves
    refine ⟨?_, leftLeaves.serves, rightLeaves.serves, _, leftLeaves.entries, rightLeaves.entries⟩
    simp only [perform, leftLeaves.outcome, rightLeaves.outcome]
  | reopen =>
    refine ⟨rfl, ?_, ?_, d, ?_, ?_⟩ <;> simpa only [perform, reopen_eq]

theorem performAll_agrees (operations : List Operation) (left right : Store)
    (leftServes : left.Serves) (rightServes : right.Serves) {d : Dictionary String}
    (leftEntries : left.entries = .ok d) (rightEntries : right.entries = .ok d) :
    (left.performAll operations).1 = (right.performAll operations).1 ∧
      ∃ d', (left.performAll operations).2.entries = .ok d' ∧
        (right.performAll operations).2.entries = .ok d' := by
  induction operations generalizing left right d with
  | nil => exact ⟨rfl, d, leftEntries, rightEntries⟩
  | cons operation rest ih =>
    obtain ⟨same, leftServes, rightServes, d', leftEntries, rightEntries⟩ :=
      perform_agrees leftServes rightServes leftEntries rightEntries operation
    obtain ⟨sameRest, last⟩ := ih _ _ leftServes rightServes leftEntries rightEntries
    refine ⟨?_, last⟩
    simp only [performAll, same, sameRest]

/-! ### Where a store is kept -/

/-- Two stores are kept in the same place. -/
def SamePlace : Store → Store → Prop
  | .memory _, .memory _ => True
  | .file path _, .file other _ => path = other
  | _, _ => False

private theorem SamePlace.refl (store : Store) : store.SamePlace store := by
  cases store <;> simp [SamePlace]

private theorem SamePlace.trans {a b c : Store} (ab : a.SamePlace b) (bc : b.SamePlace c) :
    a.SamePlace c := by
  cases a <;> cases b <;> cases c <;> simp_all [SamePlace]

private theorem samePlace_replace (store : Store) (d : Dictionary String) :
    store.SamePlace (store.replace d).store := by
  cases store with
  | memory _ => trivial
  | file path disk =>
    simp only [replace]
    rcases disk.write path (encode d) with ⟨_ | _, disk'⟩ <;> rfl

theorem samePlace_set (store : Store) (key value : String) :
    store.SamePlace (store.set key value).store := by
  unfold set
  split
  · exact samePlace_replace store _
  · exact .refl store

theorem samePlace_remove (store : Store) (key : String) :
    store.SamePlace (store.remove key).store := by
  unfold remove
  split
  · split
    · exact samePlace_replace store _
    · exact .refl store
  · exact samePlace_replace store []
  · exact .refl store

private theorem samePlace_performAll (store : Store) (operations : List Operation) :
    store.SamePlace (store.performAll operations).2 := by
  induction operations generalizing store with
  | nil => exact .refl store
  | cons operation rest ih =>
    have step : store.SamePlace (store.perform operation).2 := by
      cases operation with
      | get key => exact .refl store
      | set key value => exact samePlace_set store key value
      | remove key => exact samePlace_remove store key
      | reopen =>
        rw [perform, reopen_eq]
        exact .refl store
    exact step.trans (ih _)

/-- A store in a file gives the results of a store in memory that begins with what the file denotes,
and after every run the file denotes what is in memory. -/
theorem file_refines_memory {path : String} {disk : Disk} {d : Dictionary String}
    (serves : disk.Serves path) (denotes : Denotes (disk.read path) d)
    (operations : List Operation) :
    ((Store.file path disk).performAll operations).1 =
        ((Store.memory d).performAll operations).1 ∧
      ∃ disk' d', ((Store.file path disk).performAll operations).2 = .file path disk' ∧
        ((Store.memory d).performAll operations).2 = .memory d' ∧
        Denotes (disk'.read path) d' := by
  obtain ⟨same, d', fileEntries, memoryEntries⟩ :=
    performAll_agrees operations (.file path disk) (.memory d) serves trivial
      ((denotes_iff path disk d).mp denotes) rfl
  refine ⟨same, ?_⟩
  -- a store stays of its kind and in its place, so the entries are those of the file and of the memory
  have filePlace := samePlace_performAll (.file path disk) operations
  have memoryPlace := samePlace_performAll (.memory d) operations
  cases fileStore : ((Store.file path disk).performAll operations).2 with
  | memory _ =>
    rw [fileStore] at filePlace
    exact filePlace.elim
  | file path' disk' =>
    cases memoryStore : ((Store.memory d).performAll operations).2 with
    | file _ _ =>
      rw [memoryStore] at memoryPlace
      exact memoryPlace.elim
    | memory d'' =>
      rw [fileStore] at filePlace fileEntries
      rw [memoryStore] at memoryEntries
      have sameEntries : d'' = d' := by
        cases memoryEntries
        rfl
      have samePath : path = path' := filePlace
      subst samePath sameEntries
      exact ⟨disk', d'', rfl, rfl, (denotes_iff path disk' d'').mpr fileEntries⟩

/-- A file that has one name twice, and an escaped character. -/
def repeatedName : String := "\x7b\"a\":\"1\", \"\":\"\\u00e9\\n\", \"a\":\"2\"\x7d"

theorem file_refines_memory_repeatedName :
    ((Store.file "session.json" (Disk.sessionDisk repeatedName.toUTF8)).performAll
        [.get "a", .set "\"\\" "\x01\n", .reopen, .remove "a", .reopen, .get "\"\\", .get "a",
          .get ""]).1 =
      [.found (.ok (some "2")), .changed (.ok ()), .reopened, .changed (.ok ()), .reopened,
        .found (.ok (some "\x01\n")), .found (.ok none), .found (.ok (some "é\n"))] := by
  obtain ⟨members, written, read⟩ : ∃ members,
      Json.Document.ofBytes? repeatedName.toUTF8 = some (.object members) ∧
        textMembers? members = some [("a", "1"), ("", "é\n"), ("a", "2")] := by
    rw [Json.Document.ofBytes?_toUTF8]
    exact ⟨_, rfl, rfl⟩
  have denotes := denotes_members written read
  rw [← Disk.read_sessionDisk] at denotes
  exact (file_refines_memory (Disk.serves_sessionDisk _) denotes _).1.trans rfl

end TeacherRegistry.Store
