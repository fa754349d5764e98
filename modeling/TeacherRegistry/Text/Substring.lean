/-!
Substrings: one text occurring in another, character by character.
-/

namespace TeacherRegistry.Text

/-- Whether `needle` stands somewhere in a list of characters. -/
def occursIn (needle : List Char) : List Char → Bool
  | [] => needle.isEmpty
  | c :: rest => needle.isPrefixOf (c :: rest) || occursIn needle rest

/-- Whether `needle` stands somewhere in `s`. -/
def contains (s needle : String) : Bool :=
  occursIn needle.toList s.toList

theorem occursIn_iff (needle cs : List Char) :
    occursIn needle cs = true ↔ ∃ before after, cs = before ++ needle ++ after := by
  induction cs with
  | nil => simp [occursIn]
  | cons c rest ih =>
    simp only [occursIn, Bool.or_eq_true, List.isPrefixOf_iff_prefix, ih]
    constructor
    · rintro (⟨after, same⟩ | ⟨before, after, rfl⟩)
      · exact ⟨[], after, by simpa using same.symm⟩
      · exact ⟨c :: before, after, rfl⟩
    · rintro ⟨before, after, same⟩
      cases before with
      | nil => exact .inl ⟨after, by simpa using same.symm⟩
      | cons first before =>
        simp only [List.cons_append, List.cons.injEq] at same
        exact .inr ⟨before, after, same.2⟩

end TeacherRegistry.Text
