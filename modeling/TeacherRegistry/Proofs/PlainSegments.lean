import TeacherRegistry.Proofs.Addresses
import TeacherRegistry.Proofs.PercentCoding

/-!
# Texts that are one segment of a path

A text that is written into an address stands there as one segment, and decodes to itself, only if
nothing in it means something to the reader of the address: no slash or backslash, no question mark
or number sign, no tab or line break, no blank or control at its end, no percent sign with two digits,
and if it is neither empty nor one or two dots. For all other texts the last segment does not decode
to them.
-/

namespace TeacherRegistry.Url

open TeacherRegistry.Text (trimEndOf)

/-- Characters that cut a text into parts or are left out of it. -/
def isDelimiter (c : Char) : Bool :=
  isBreak c || isSlash true c || c == '?' || c == '#'

/-- Whether a text that is written into an address is one segment there, and decodes to itself. -/
def isPlainSegment (cs : List Char) : Bool :=
  cs != [] && cs != ['.'] && cs != ['.', '.'] && cs.all (!isDelimiter ·) &&
    cs.getLast?.all (!isEdge ·) && !hasEscape cs

theorem isPlainSegment_iff {cs : List Char} : isPlainSegment cs = true ↔
    (cs ≠ [] ∧ cs ≠ ['.'] ∧ cs ≠ ['.', '.']) ∧ (∀ c ∈ cs, isDelimiter c = false) ∧
      EndsVisibly cs ∧ hasEscape cs = false := by
  simp [isPlainSegment, EndsVisibly, Option.all_eq_true, and_assoc]

theorem hasEscape_of_notMem {cs : List Char} (free : '%' ∉ cs) : hasEscape cs = false := by
  induction cs with
  | nil => rfl
  | cons c rest ih =>
    rw [List.mem_cons, not_or] at free
    rw [hasEscape, ih free.2, Bool.or_false]
    unfold startsEscape
    split
    next same => exact absurd (List.cons.inj same).1.symm free.1
    · rfl

/-- Digits with a sign in front of them are a plain segment. -/
theorem isPlainSegment_of_digits {cs : List Char} (filled : cs ≠ [])
    (digits : ∀ c ∈ cs, c = '-' ∨ c.isDigit = true) : isPlainSegment cs = true := by
  have harmless : ∀ c ∈ cs, isDelimiter c = false ∧ isEdge c = false ∧ c ≠ '.' ∧ c ≠ '%' := by
    intro c among
    rcases digits c among with rfl | digit
    · decide
    · have ascii : c.toNat < 128 :=
        Nat.lt_of_le_of_lt (Char.isDigit_iff_toNat.mp digit).2 (by decide)
      exact of_ascii (p := fun c => c.isDigit = true →
        isDelimiter c = false ∧ isEdge c = false ∧ c ≠ '.' ∧ c ≠ '%') (by decide +kernel) ascii digit
  refine isPlainSegment_iff.mpr ⟨⟨filled, ?_, ?_⟩, fun c among => (harmless c among).1, ?_, ?_⟩
  · rintro rfl
    exact (harmless '.' List.mem_cons_self).2.2.1 rfl
  · rintro rfl
    exact (harmless '.' List.mem_cons_self).2.2.1 rfl
  · exact fun c last => (harmless c (List.mem_of_getLast? last)).2.1
  · exact hasEscape_of_notMem fun among => (harmless '%' among).2.2.2 rfl

/-! ### Reading a plain segment -/

theorem isDoubleDot_cases {cs : List Char} (double : isDoubleDot cs = true) :
    cs = ['.', '.'] ∨ hasEscape cs = true := by
  have all : ∀ a ∈ dotForms, ∀ b ∈ dotForms, a ++ b = ['.', '.'] ∨ hasEscape (a ++ b) = true := by
    decide
  simp only [isDoubleDot, List.any_eq_true] at double
  obtain ⟨a, isA, b, isB, same⟩ := double
  rw [← eq_of_beq same]
  exact all a isA b isB

theorem isSingleDot_cases {cs : List Char} (single : isSingleDot cs = true) :
    cs = ['.'] ∨ hasEscape cs = true := by
  have all : ∀ a ∈ dotForms, a = ['.'] ∨ hasEscape a = true := by decide
  exact all cs (List.contains_iff_mem.mp single)

private theorem notMem_of_delimiter {cs : List Char} (free : ∀ c ∈ cs, isDelimiter c = false)
    {mark : Char} (delimiter : isDelimiter mark = true) : mark ∉ cs := by
  intro among
  rw [free mark among] at delimiter
  cases delimiter

/-- A plain segment is read as it is written. -/
theorem read_of_plain {scheme : List Char} (network : IsNetwork scheme) (above : List (List Char))
    {cs : List Char} (plain : isPlainSegment cs = true) :
    cutSuffix scheme (kept cs) = (cs, ⟨none, none⟩) ∧
      pushSegments scheme above (cutSegments true cs) =
        above ++ [percentEncode pathEscapes cs] := by
  obtain ⟨⟨_, single, double⟩, free, visible, unescaped⟩ := isPlainSegment_iff.mp plain
  have unbroken : withoutBreaks cs = cs := by
    refine List.filter_eq_self.mpr fun c among => ?_
    have other := free c among
    simp only [isDelimiter, Bool.or_eq_false_iff] at other
    simp [other.1.1.1]
  have whole : kept cs = cs := by rw [kept, trimEndOf_of_visible visible, unbroken]
  have uncut : cutSegments true cs = [cs] := by
    refine List.splitOnP_eq_singleton fun c among => ?_
    have other := free c among
    simp only [isDelimiter, Bool.or_eq_false_iff] at other
    exact other.1.1.2
  constructor
  · rw [whole, cutSuffix, cutAt_of_free (notMem_of_delimiter free rfl)]
    simp only
    rw [cutAt_of_free (notMem_of_delimiter free rfl)]
    rfl
  · rw [uncut, pushSegments, pushSegment_network network, unbroken, if_neg, if_neg]
    · intro dot
      rcases isSingleDot_cases dot with same | escape
      · exact single same
      · exact absurd escape (by rw [unescaped]; decide)
    · intro dots
      rcases isDoubleDot_cases dots with same | escape
      · exact double same
      · exact absurd escape (by rw [unescaped]; decide)

/-! ### What is left of a text -/

theorem trimEndOf_sublist (p : Char → Bool) (cs : List Char) : (trimEndOf p cs).Sublist cs := by
  have part := (List.dropWhile_sublist p (l := cs.reverse)).reverse
  rw [List.reverse_reverse] at part
  exact part

theorem visible_of_trimEndOf {cs : List Char} (whole : trimEndOf isEdge cs = cs) :
    EndsVisibly cs := by
  intro c last
  have first := List.head?_dropWhile_not isEdge cs.reverse
  have same : cs.reverse.dropWhile isEdge = cs.reverse := by
    rw [← List.reverse_inj, List.reverse_reverse]
    exact whole
  rw [same, List.head?_reverse, last] at first
  exact first

theorem cutAt_front (mark : Char) (cs : List Char) :
    (cutAt mark cs).1.Sublist cs ∧ mark ∉ (cutAt mark cs).1 := by
  rcases cutAt_cases mark cs with ⟨free, uncut⟩ | ⟨front, rest, rfl, first, cut⟩
  · rw [uncut]
    exact ⟨List.Sublist.refl cs, free⟩
  · rw [cut]
    exact ⟨List.sublist_append_left front _, first⟩

/-- What is left in front of query and fragment. -/
theorem cutSuffix_front (scheme cs : List Char) :
    (cutSuffix scheme cs).1.Sublist cs ∧ '?' ∉ (cutSuffix scheme cs).1 ∧
      '#' ∉ (cutSuffix scheme cs).1 := by
  obtain ⟨part, noHash⟩ := cutAt_front '#' cs
  obtain ⟨part', noMark⟩ := cutAt_front '?' (cutAt '#' cs).1
  exact ⟨part'.trans part, noMark, fun among => noHash (part'.subset among)⟩

theorem mem_splitOnP {p : Char → Bool} {cs piece : List Char} (among : piece ∈ cs.splitOnP p) :
    piece.Sublist cs ∧ ∀ c ∈ piece, p c = false := by
  induction cs generalizing piece with
  | nil =>
    rw [List.splitOnP_nil, List.mem_singleton] at among
    subst among
    exact ⟨List.Sublist.refl [], fun _ impossible => absurd impossible List.not_mem_nil⟩
  | cons c cs ih =>
    rw [List.splitOnP_cons_eq_if_modifyHead] at among
    split at among
    next cut =>
      rcases List.mem_cons.mp among with rfl | later
      · exact ⟨List.nil_sublist _, fun _ impossible => absurd impossible List.not_mem_nil⟩
      · exact ⟨(ih later).1.cons c, (ih later).2⟩
    next uncut =>
      cases pieces : cs.splitOnP p with
      | nil => exact absurd pieces (List.splitOnP_ne_nil p cs)
      | cons first later =>
        rw [pieces] at among ih
        rw [List.modifyHead_cons] at among
        rcases List.mem_cons.mp among with rfl | others
        · obtain ⟨part, free⟩ := ih List.mem_cons_self
          exact ⟨part.cons_cons c, List.forall_mem_cons.mpr ⟨Bool.eq_false_iff.mpr uncut, free⟩⟩
        · obtain ⟨part, free⟩ := ih (List.mem_cons_of_mem first others)
          exact ⟨part.cons c, free⟩

/-- Only a plain segment is what the last segment decodes to. -/
theorem plain_of_last {scheme : List Char} (network : IsNetwork scheme)
    {above : List (List Char)} {cs segment : List Char}
    (last : (pushSegments scheme above
      (cutSegments true (cutSuffix scheme (kept cs)).1)).getLast? = some segment)
    (filled : segment ≠ []) (decoded : percentDecode segment = utf8 cs) :
    isPlainSegment cs = true := by
  obtain ⟨part, noMark, noHash⟩ := cutSuffix_front scheme (kept cs)
  generalize (cutSuffix scheme (kept cs)).1 = front at *
  rcases List.eq_nil_or_concat (cutSegments true front) with none | ⟨others, written, pieces⟩
  · exact absurd none (List.splitOnP_ne_nil _ _)
  · rw [List.concat_eq_append] at pieces
    have piece : written ∈ front.splitOnP (isSlash true) := by
      rw [← cutSegments, pieces]
      exact List.mem_append_right _ List.mem_cons_self
    rw [pieces, getLast?_pushSegments network] at last
    split at last
    · cases last
      exact absurd rfl filled
    next dotless =>
      cases last
      -- what was written last is a part of the text, so it is all of the text
      obtain ⟨part', unslashed⟩ := mem_splitOnP piece
      have unbroken : (withoutBreaks written).Sublist written := List.filter_sublist
      have trimmed : (kept cs).Sublist (trimEndOf isEdge cs) := List.filter_sublist
      have short : (trimEndOf isEdge cs).Sublist cs := trimEndOf_sublist isEdge cs
      have toEnd : written.Sublist (trimEndOf isEdge cs) := (part'.trans part).trans trimmed
      rw [percentDecode_percentEncode] at decoded
      obtain ⟨same, unescaped⟩ :=
        eq_of_percentDecode ((unbroken.trans toEnd).trans short) decoded
      rw [same] at unbroken unescaped dotless
      refine isPlainSegment_iff.mpr ⟨⟨?_, ?_, ?_⟩, ?_, ?_, unescaped⟩
      · rintro rfl
        exact filled (by rw [same]; rfl)
      · rintro rfl
        exact dotless (Or.inr (by decide))
      · rintro rfl
        exact dotless (Or.inl (by decide))
      · intro c among
        have inWritten := unbroken.subset among
        have inFront := part'.subset inWritten
        rw [← same] at among
        have steady : isBreak c = false := by simpa using (List.mem_filter.mp among).2
        have notMark : (c == '?') = false :=
          beq_eq_false_iff_ne.mpr fun mark => noMark (mark ▸ inFront)
        have notHash : (c == '#') = false :=
          beq_eq_false_iff_ne.mpr fun mark => noHash (mark ▸ inFront)
        rw [isDelimiter, steady, unslashed c inWritten, notMark, notHash]
        rfl
      · exact visible_of_trimEndOf (short.eq_of_length_le (unbroken.trans toEnd).length_le)

end TeacherRegistry.Url
