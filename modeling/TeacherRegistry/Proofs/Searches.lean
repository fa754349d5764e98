import TeacherRegistry.Controller
import TeacherRegistry.Proofs.LoweredParts

/-!
# What a search shows

A search compares names and e-mails in lower case, so it is meant to find at least what stands there
word for word, and less and less as the term grows. Both hold of a term exactly if its lower case is
the same wherever the term stands, and both fail for some terms in which there is a capital sigma.
What stands in the number is always found.
-/

namespace TeacherRegistry

namespace Text

theorem contains_trans {s part needle : String} (outer : contains s part = true)
    (inner : contains part needle = true) : contains s needle = true := by
  obtain ⟨before, after, rfl⟩ := (contains_iff s part).mp outer
  obtain ⟨before', after', rfl⟩ := (contains_iff part needle).mp inner
  refine (contains_iff _ _).mpr ⟨before ++ before', after' ++ after, ?_⟩
  simp only [String.append_assoc]

theorem contains_self (s : String) : contains s s = true :=
  (contains_iff s s).mpr ⟨"", "", by simp⟩

theorem contains_empty_iff (needle : String) : contains "" needle = true ↔ needle = "" := by
  simp [contains, occursIn]

end Text

open Text (IsSettled contains contains_iff lower)

namespace Teacher

/-- A term stands word for word in the name, the number or the e-mail of a record. -/
def Mentions (t : Teacher) (term : String) : Prop :=
  ∃ field ∈ [Field.name, .idNumber, .email], ∃ before after, t.get field = before ++ term ++ after

theorem isFoundBy_iff (t : Teacher) (term : String) : t.isFoundBy term = true ↔
    term = "" ∨ contains (lower t.name) (lower term) = true ∨ contains t.idNumber term = true ∨
      contains (lower t.email) (lower term) = true := by
  simp only [isFoundBy, Bool.or_eq_true, String.isEmpty_iff, or_assoc]

/-- What stands in a record word for word is found if its lower case can be told. -/
theorem isFoundBy_of_mentions {t : Teacher} {term : String} (settled : IsSettled term)
    (mentions : t.Mentions term) : t.isFoundBy term = true := by
  obtain ⟨field, searched, stands⟩ := mentions
  have within : contains (t.get field) term = true := (contains_iff _ _).mpr stands
  apply (t.isFoundBy_iff term).mpr
  cases field with
  | name => exact .inr (.inl (Text.contains_lower_of_settled settled within))
  | idNumber => exact .inr (.inr (.inl within))
  | email => exact .inr (.inr (.inr (Text.contains_lower_of_settled settled within)))
  | specialty => simp at searched

/-- What a longer term finds a part of it finds, too, if the lower case of the part can be told. -/
theorem isFoundBy_of_longer {t : Teacher} {term longer : String} (settled : IsSettled term)
    (within : contains longer term = true) (found : t.isFoundBy longer = true) :
    t.isFoundBy term = true := by
  have lowered := Text.contains_lower_of_settled settled within
  apply (t.isFoundBy_iff term).mpr
  rcases (t.isFoundBy_iff longer).mp found with rfl | name | number | email
  · exact .inl ((Text.contains_empty_iff term).mp within)
  · exact .inr (.inl (Text.contains_trans name lowered))
  · exact .inr (.inr (.inl (Text.contains_trans number within)))
  · exact .inr (.inr (.inr (Text.contains_trans email lowered)))

/-- A record of which nothing is known but its name. -/
def named (name : String) : Teacher := { empty with name }

/-- Otherwise a record stays hidden that has the term in its name, and is found by the whole name. -/
theorem exists_hidden {term : String} (unsettled : ¬ IsSettled term) :
    ∃ name, contains name term = true ∧ (named name).isFoundBy term = false := by
  obtain ⟨name, within, hidden⟩ := Text.exists_hiding unsettled
  refine ⟨name, within, Bool.eq_false_iff.mpr fun found => ?_⟩
  -- the other fields are empty, and nothing but the empty term is in them
  have filled : term ≠ "" := by
    rintro rfl
    exact unsettled (Text.isSettled_of_notMem (by simp))
  rcases ((named name).isFoundBy_iff term).mp found with none | shown | number | email
  · exact filled none
  · rw [show (named name).name = name from rfl, hidden] at shown
    cases shown
  · exact filled ((Text.contains_empty_iff term).mp number)
  · have lowered : lower term = "" := (Text.contains_empty_iff _).mp email
    rw [lowered, (contains_iff _ _).mpr ⟨"", lower name, by simp⟩] at hidden
    cases hidden

end Teacher

namespace Controller

theorem mem_filtered_iff (c : Controller) (term : String) (teacher : Teacher) :
    teacher ∈ (c.setFilter term).filtered ↔
      teacher ∈ c.collection ∧ teacher.isFoundBy term = true := by
  simp only [filtered, setFilter, List.mem_filter]

theorem filtered_sublist {c : Controller} {term longer : String}
    (weaker : ∀ teacher : Teacher, teacher.isFoundBy longer = true → teacher.isFoundBy term = true) :
    (c.setFilter longer).filtered.Sublist (c.setFilter term).filtered :=
  List.monotone_filter_right c.collection weaker

/-- A term whose lower case is the same in every text hides no record in which it stands word for
word, and a search for more shows no more and in the same order. Every other term hides some such
record, and shows less than some longer term does. Records that have the term in their number are
shown whatever the term is. -/
theorem search_shows_iff (term : String) :
    ((∀ (c : Controller) (teacher : Teacher), teacher ∈ c.collection → teacher.Mentions term →
        teacher ∈ (c.setFilter term).filtered) ↔ IsSettled term) ∧
    ((∀ (c : Controller) (before after : String),
        (c.setFilter (before ++ term ++ after)).filtered.Sublist (c.setFilter term).filtered) ↔
      IsSettled term) ∧
    ∀ (c : Controller) (teacher : Teacher), teacher ∈ c.collection →
      contains teacher.idNumber term = true → teacher ∈ (c.setFilter term).filtered := by
  refine ⟨⟨?_, ?_⟩, ⟨?_, ?_⟩, ?_⟩
  · intro shows
    by_contra unsettled
    obtain ⟨name, within, hidden⟩ := Teacher.exists_hidden unsettled
    have shown := shows { initial with collection := [.named name] } (.named name)
      List.mem_cons_self ⟨.name, by simp, (contains_iff name term).mp within⟩
    rw [((mem_filtered_iff _ _ _).mp shown).2] at hidden
    cases hidden
  · intro settled c teacher listed mentions
    exact (mem_filtered_iff c term teacher).mpr
      ⟨listed, Teacher.isFoundBy_of_mentions settled mentions⟩
  · intro narrows
    by_contra unsettled
    obtain ⟨name, within, hidden⟩ := Teacher.exists_hidden unsettled
    obtain ⟨before, after, rfl⟩ := (contains_iff name term).mp within
    -- the whole name finds the record
    have found : (Teacher.named (before ++ term ++ after)).isFoundBy (before ++ term ++ after) =
        true := (Teacher.isFoundBy_iff _ _).mpr (.inr (.inl (Text.contains_self _)))
    have shown := (narrows { initial with collection := [.named (before ++ term ++ after)] } before
      after).subset ((mem_filtered_iff _ _ _).mpr ⟨List.mem_cons_self, found⟩)
    rw [((mem_filtered_iff _ _ _).mp shown).2] at hidden
    cases hidden
  · intro settled c before after
    exact filtered_sublist fun teacher found => Teacher.isFoundBy_of_longer settled
      ((contains_iff _ _).mpr ⟨before, after, rfl⟩) found
  · intro c teacher listed number
    exact (mem_filtered_iff c term teacher).mpr
      ⟨listed, (teacher.isFoundBy_iff term).mpr (.inr (.inr (.inl number)))⟩

/-- A term in capitals that ends with a sigma does not find the name that goes on after it, though
the whole name does. -/
theorem sigma_hidden :
    let c : Controller := { initial with collection := [.named "ΑΣΑ"] }
    (Teacher.named "ΑΣΑ").Mentions "ΑΣ" ∧ (c.setFilter "ΑΣΑ").filtered = [.named "ΑΣΑ"] ∧
      (c.setFilter "ΑΣ").filtered = [] := by
  refine ⟨⟨.name, by simp, "", "Α", by decide⟩, by decide +kernel, by decide +kernel⟩

end Controller

end TeacherRegistry
