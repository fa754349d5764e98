import TeacherRegistry.Dictionary

/-!
# Dictionaries in the order of their keys

Every operation keeps the entries in strictly increasing order of their keys, and such dictionaries
are equal as soon as they have the same value under every key. Collecting the entries of a list
gives the last value that the list has under a key.
-/

namespace TeacherRegistry.Dictionary

variable {α : Type}

theorem mem_insert {key : String} {value : α} {d : Dictionary α} {entry : String × α}
    (member : entry ∈ insert key value d) : entry = (key, value) ∨ entry ∈ d := by
  fun_induction insert key value d <;> grind

theorem mem_of_mem_erase {key : String} {d : Dictionary α} {entry : String × α}
    (member : entry ∈ erase key d) : entry ∈ d := by
  fun_induction erase key d <;> grind

theorem sorted_nil : Sorted ([] : Dictionary α) := List.Pairwise.nil

theorem sorted_insert {d : Dictionary α} (sorted : Sorted d) (key : String) (value : α) :
    Sorted (insert key value d) := by
  unfold Sorted at *
  fun_induction insert key value d with
  | case1 => exact List.pairwise_singleton _ _
  | case2 key' value' rest less =>
    refine List.pairwise_cons.mpr ⟨fun entry member => ?_, sorted⟩
    rcases List.mem_cons.mp member with rfl | member
    · exact less
    · exact String.lt_trans less ((List.pairwise_cons.mp sorted).1 entry member)
  | case3 value' rest _ =>
    exact List.pairwise_cons.mpr (List.pairwise_cons.mp sorted)
  | case4 key' value' rest notLess different ih =>
    obtain ⟨above, ordered⟩ := List.pairwise_cons.mp sorted
    refine List.pairwise_cons.mpr ⟨fun entry member => ?_, ih ordered⟩
    rcases mem_insert member with rfl | member
    -- the new key is neither below the first one nor equal to it
    · show key' < key
      grind
    · exact above entry member

theorem sorted_erase {d : Dictionary α} (sorted : Sorted d) (key : String) :
    Sorted (erase key d) := by
  unfold Sorted at *
  fun_induction erase key d with
  | case1 => exact sorted
  | case2 value rest ih => exact ih (List.pairwise_cons.mp sorted).2
  | case3 key' value rest different ih =>
    obtain ⟨above, ordered⟩ := List.pairwise_cons.mp sorted
    exact List.pairwise_cons.mpr
      ⟨fun entry member => above entry (mem_of_mem_erase member), ih ordered⟩

private theorem mem_collected {entries : List (String × α)} {d : Dictionary α}
    {entry : String × α}
    (member : entry ∈ entries.foldl (fun d entry => insert entry.1 entry.2 d) d) :
    entry ∈ entries ∨ entry ∈ d := by
  induction entries generalizing d with
  | nil => exact Or.inr member
  | cons first rest ih =>
    rcases ih member with inRest | inserted
    · exact Or.inl (List.mem_cons_of_mem first inRest)
    · rcases mem_insert inserted with rfl | old
      · exact Or.inl List.mem_cons_self
      · exact Or.inr old

theorem mem_of_mem_ofList {entries : List (String × α)} {entry : String × α}
    (member : entry ∈ ofList entries) : entry ∈ entries := by
  rcases mem_collected member with member | impossible
  · exact member
  · exact absurd impossible List.not_mem_nil

private theorem sorted_collected (entries : List (String × α)) {d : Dictionary α}
    (sorted : Sorted d) :
    Sorted (entries.foldl (fun d entry => insert entry.1 entry.2 d) d) := by
  induction entries generalizing d with
  | nil => exact sorted
  | cons first rest ih => exact ih (sorted_insert sorted first.1 first.2)

theorem sorted_ofList (entries : List (String × α)) : Sorted (ofList entries) :=
  sorted_collected entries sorted_nil

private theorem insert_above {d : Dictionary α} {key : String} {value : α}
    (above : ∀ entry ∈ d, entry.1 < key) : insert key value d = d ++ [(key, value)] := by
  induction d with
  | nil => rfl
  | cons first rest ih =>
    have less : first.1 < key := above first List.mem_cons_self
    have notLess : ¬ key < first.1 := String.lt_asymm less
    have different : key ≠ first.1 := fun equal => String.lt_irrefl key (equal ▸ less)
    rw [insert, if_neg notLess, if_neg different,
      ih fun entry member => above entry (List.mem_cons_of_mem first member)]
    rfl

private theorem collected_of_sorted (entries : List (String × α)) (d : Dictionary α)
    (sorted : Sorted (d ++ entries)) :
    entries.foldl (fun d entry => insert entry.1 entry.2 d) d = d ++ entries := by
  -- what is collected so far lies below all entries that are still to come
  induction entries generalizing d with
  | nil => exact (List.append_nil d).symm
  | cons first rest ih =>
    have above : ∀ entry ∈ d, entry.1 < first.1 := fun entry member =>
      (List.pairwise_append.mp sorted).2.2 entry member first List.mem_cons_self
    have shifted : d ++ first :: rest = (d ++ [first]) ++ rest := by simp
    rw [List.foldl_cons, insert_above above, shifted]
    exact ih (d ++ [first]) (shifted ▸ sorted)

/-- Collecting the entries of a dictionary gives the dictionary. -/
theorem ofList_of_sorted {d : Dictionary α} (sorted : Sorted d) : ofList d = d :=
  collected_of_sorted d [] sorted

private theorem get?_collected (entries : List (String × α)) (d : Dictionary α) (key : String) :
    get? (entries.foldl (fun d entry => insert entry.1 entry.2 d) d) key =
      (entries.reverse.lookup key).or (get? d key) := by
  induction entries generalizing d with
  | nil => rfl
  | cons first rest ih =>
    have single : List.lookup key [first] = if first.1 = key then some first.2 else none := by
      rw [List.lookup_cons, List.lookup_nil]
      by_cases same : first.1 = key <;> grind
    rw [List.foldl_cons, ih, get?_insert, List.reverse_cons, List.lookup_append, single]
    cases rest.reverse.lookup key with
    | some value => rfl
    | none => by_cases same : first.1 = key <;> simp [same]

/-- Of several values under one key the last counts. -/
theorem get?_ofList (entries : List (String × α)) (key : String) :
    get? (ofList entries) key = entries.reverse.lookup key := by
  rw [ofList, get?_collected, get?_nil, Option.or_none]

theorem erase_of_absent {d : Dictionary α} {key : String} (absent : get? d key = none) :
    erase key d = d := by
  fun_induction erase key d <;> grind [get?]

theorem get?_cons_self (entry : String × α) (rest : Dictionary α) :
    get? (entry :: rest) entry.1 = some entry.2 := if_pos rfl

theorem get?_eq_none_of_above {d : Dictionary α} {key : String}
    (above : ∀ entry ∈ d, key < entry.1) : get? d key = none := by
  induction d with
  | nil => rfl
  | cons first rest ih =>
    have different : first.1 ≠ key := fun equal =>
      String.lt_irrefl key (equal ▸ above first List.mem_cons_self)
    rw [get?, if_neg different]
    exact ih fun entry member => above entry (List.mem_cons_of_mem first member)

private theorem get?_below {first : String × α} {rest : Dictionary α} {key : String}
    (sorted : Sorted (first :: rest)) (less : key < first.1) : get? (first :: rest) key = none := by
  apply get?_eq_none_of_above
  intro entry member
  rcases List.mem_cons.mp member with rfl | member
  · exact less
  · exact String.lt_trans less ((List.pairwise_cons.mp sorted).1 entry member)

/-- A dictionary is known by the values under its keys. -/
theorem Sorted.ext {d e : Dictionary α} (left : Sorted d) (right : Sorted e)
    (same : ∀ key, get? d key = get? e key) : d = e := by
  induction d generalizing e with
  | nil =>
    cases e with
    | nil => rfl
    | cons second others =>
      have found := same second.1
      rw [get?_cons_self] at found
      cases found
  | cons first rest ih =>
    cases e with
    | nil =>
      have found := same first.1
      rw [get?_cons_self] at found
      cases found
    | cons second others =>
      -- the least keys agree: a lesser one would be missing on the other side
      have sameKey : first.1 = second.1 := by
        rcases Std.lt_trichotomy first.1 second.1 with less | equal | less
        · have found := same first.1
          rw [get?_cons_self, get?_below right less] at found
          cases found
        · exact equal
        · have found := same second.1
          rw [get?_cons_self, get?_below left less] at found
          cases found
      have found := same first.1
      rw [get?_cons_self, sameKey, get?_cons_self] at found
      have sameEntry : first = second := Prod.ext sameKey (Option.some.inj found)
      subst sameEntry
      obtain ⟨aboveFirst, ordered⟩ := List.pairwise_cons.mp left
      obtain ⟨aboveSecond, othersOrdered⟩ := List.pairwise_cons.mp right
      refine congrArg (first :: ·) (ih ordered othersOrdered fun key => ?_)
      by_cases isFirst : first.1 = key
      -- the first key has been taken off both sides, and nothing after it has the same
      · subst isFirst
        rw [get?_eq_none_of_above aboveFirst, get?_eq_none_of_above aboveSecond]
      · have elsewhere := same key
        rwa [get?, if_neg isFirst, get?, if_neg isFirst] at elsewhere

end TeacherRegistry.Dictionary
