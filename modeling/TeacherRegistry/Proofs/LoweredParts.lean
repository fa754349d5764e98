import Mathlib.Data.List.TakeWhile
import TeacherRegistry.Proofs.CaseForms
import TeacherRegistry.Text.Substring

/-!
# Lower case of a part and of the whole

Every character of a text is lowered by itself, except the capital sigma, which looks at its
neighbours to see whether a word ends with it. A part of a text therefore has its own lower case in
that of the whole, whatever the whole is, exactly if each of its sigmas finds the neighbours that it
looks for within the part.
-/

namespace TeacherRegistry.Text

/-! ### What a sigma sees on one side -/

/-- The characters on one side of a sigma, nearest first, are all passed over: what counts there stands
behind them. -/
def SeesThrough (side : List Char) : Prop :=
  ∀ c ∈ side, inRanges caseIgnorableRanges c = true

theorem startsCased_of_seesThrough {side : List Char} (through : SeesThrough side)
    (beyond : List Char) : startsCased (side ++ beyond) = startsCased beyond := by
  have passed : side.dropWhile (inRanges caseIgnorableRanges) = [] :=
    List.dropWhile_eq_nil_iff.mpr through
  simp only [startsCased, List.dropWhile_append, passed, List.isEmpty_nil, if_true]

theorem startsCased_append {side : List Char} (stops : ¬ SeesThrough side)
    (beyond : List Char) : startsCased (side ++ beyond) = startsCased side := by
  have stopped : side.dropWhile (inRanges caseIgnorableRanges) ≠ [] :=
    fun passed => stops (List.dropWhile_eq_nil_iff.mp passed)
  obtain ⟨c, rest, stop⟩ := List.exists_cons_of_ne_nil stopped
  simp [startsCased, List.dropWhile_append, stop]

theorem not_startsCased_of_seesThrough {side : List Char} (through : SeesThrough side) :
    startsCased side = false := by
  have nothing := startsCased_of_seesThrough through []
  rw [List.append_nil] at nothing
  exact nothing

/-! ### The form of one character -/

/-- The lower case of a character between others; those before it are given nearest first. -/
def formBetween (before : List Char) (c : Char) (rest : List Char) : List Char :=
  if c = 'Σ' then if startsCased before && !startsCased rest then ['ς'] else ['σ']
  else lowerChar c

theorem lowerAfter_cons (before : List Char) (c : Char) (rest : List Char) :
    lowerAfter before (c :: rest) = formBetween before c rest ++ lowerAfter (c :: before) rest :=
  rfl

theorem length_formBetween (before before' : List Char) (c : Char) (rest rest' : List Char) :
    (formBetween before c rest).length = (formBetween before' c rest').length := by
  unfold formBetween
  by_cases sigma : c = 'Σ'
  · -- both forms of the small sigma are one character
    simp only [sigma, if_true, apply_ite List.length, List.length_singleton, ite_self]
  · simp only [sigma, if_false]

theorem formBetween_sigma_ne_nil (before rest : List Char) : formBetween before 'Σ' rest ≠ [] := by
  unfold formBetween
  split
  · split <;> exact List.cons_ne_nil _ _
  · contradiction

/-- A sigma between these characters has the same form whatever stands around them: a word goes on
behind it, or it can be told from them that no word does and whether there was one. -/
def Decides (before rest : List Char) : Prop :=
  startsCased rest = true ∨
    (¬ SeesThrough before ∧ (startsCased before = false ∨ ¬ SeesThrough rest))

theorem formBetween_of_decides {before rest : List Char} (decides : Decides before rest)
    (outer outer' : List Char) :
    formBetween (before ++ outer) 'Σ' (rest ++ outer') = formBetween before 'Σ' rest := by
  rcases decides with goesOn | ⟨seen, noWord | ends⟩
  · have stops : ¬ SeesThrough rest := fun through => by
      rw [not_startsCased_of_seesThrough through] at goesOn
      cases goesOn
    simp only [formBetween, startsCased_append stops, goesOn, Bool.not_true, Bool.and_false]
  · simp only [formBetween, startsCased_append seen, noWord, Bool.false_and]
  · simp only [formBetween, startsCased_append seen, startsCased_append ends]

/-- Where that is not so, any letter in front makes a difference, or any letter behind. -/
theorem formBetween_of_not_decides {before rest : List Char} (undecided : ¬ Decides before rest) :
    (∀ letter, startsCased [letter] = true →
      formBetween (before ++ [letter]) 'Σ' rest ≠ formBetween before 'Σ' rest) ∨
    (∀ letter, startsCased [letter] = true →
      formBetween before 'Σ' (rest ++ [letter]) ≠ formBetween before 'Σ' rest) := by
  simp only [Decides, not_or, not_and, Bool.not_eq_true] at undecided
  obtain ⟨ends, undecided⟩ := undecided
  by_cases sees : SeesThrough before
  · left
    intro letter cased
    simp [formBetween, startsCased_of_seesThrough sees, not_startsCased_of_seesThrough sees, cased,
      ends]
  · right
    intro letter cased
    obtain ⟨word, through⟩ := undecided sees
    simp only [Bool.not_eq_false, not_not] at word through
    simp [formBetween, startsCased_of_seesThrough through, word, cased, ends]

/-! ### The middle of a text -/

/-- The lower case of the middle of a text. -/
def lowerBetween (before : List Char) : List Char → List Char → List Char
  | [], _ => []
  | c :: rest, after =>
    formBetween before c (rest ++ after) ++ lowerBetween (c :: before) rest after

theorem lowerAfter_append (before part after : List Char) :
    lowerAfter before (part ++ after) =
      lowerBetween before part after ++ lowerAfter (part.reverse ++ before) after := by
  induction part generalizing before with
  | nil => rfl
  | cons c rest ih =>
    rw [List.cons_append, lowerAfter_cons, ih, lowerBetween, List.append_assoc]
    simp

theorem lowerBetween_append (before part more after : List Char) :
    lowerBetween before (part ++ more) after =
      lowerBetween before part (more ++ after) ++
        lowerBetween (part.reverse ++ before) more after := by
  induction part generalizing before with
  | nil => rfl
  | cons c rest ih =>
    rw [List.cons_append, lowerBetween, ih, lowerBetween, List.append_assoc]
    simp

theorem lowerBetween_nil (before part : List Char) :
    lowerBetween before part [] = lowerAfter before part := by
  have whole := lowerAfter_append before part []
  rw [List.append_nil] at whole
  simpa [lowerAfter] using whole.symm

theorem length_lowerBetween (before before' part after after' : List Char) :
    (lowerBetween before part after).length = (lowerBetween before' part after').length := by
  induction part generalizing before before' with
  | nil => rfl
  | cons c rest ih =>
    rw [lowerBetween, lowerBetween, List.length_append, List.length_append,
      length_formBetween before before' c _ (rest ++ after'), ih (c :: before) (c :: before')]

/-- Where the same part has the same lower case, so has each of its sigmas. -/
theorem formBetween_of_lowerBetween {before before' front rest after after' : List Char}
    (same : lowerBetween before (front ++ 'Σ' :: rest) after =
      lowerBetween before' (front ++ 'Σ' :: rest) after') :
    formBetween (front.reverse ++ before) 'Σ' (rest ++ after) =
      formBetween (front.reverse ++ before') 'Σ' (rest ++ after') := by
  rw [lowerBetween_append, lowerBetween_append] at same
  obtain ⟨_, later⟩ := List.append_inj same (length_lowerBetween _ _ _ _ _)
  rw [lowerBetween, lowerBetween] at later
  exact (List.append_inj later (length_formBetween _ _ _ _ _)).1

/-! ### Parts that keep their lower case -/

/-- Every capital sigma of a text finds within the text the neighbours that tell its lower case. -/
def IsSettled (s : String) : Prop :=
  ∀ front rest, s.toList = front ++ 'Σ' :: rest → Decides front.reverse rest

/-- Only capital sigmas can leave anything open. -/
theorem isSettled_of_notMem {s : String} (none : 'Σ' ∉ s.toList) : IsSettled s := by
  intro front rest split
  rw [split] at none
  simp at none

private theorem lowerBetween_of_decides {before part : List Char}
    (decides : ∀ front rest, part = front ++ 'Σ' :: rest → Decides (front.reverse ++ before) rest)
    (outer after : List Char) :
    lowerBetween (before ++ outer) part after = lowerAfter before part := by
  induction part generalizing before with
  | nil => rfl
  | cons c rest ih =>
    -- what has been passed is seen by the sigmas that follow
    have later : lowerBetween ((c :: before) ++ outer) rest after =
        lowerAfter (c :: before) rest := by
      apply ih
      rintro front further rfl
      simpa using decides (c :: front) further rfl
    have first : formBetween (before ++ outer) c (rest ++ after) = formBetween before c rest := by
      by_cases sigma : c = 'Σ'
      · subst sigma
        exact formBetween_of_decides (by simpa using decides [] rest rfl) outer after
      · simp only [formBetween, sigma, if_false]
    rw [lowerBetween, lowerAfter_cons, first]
    exact congrArg (_ ++ ·) later

theorem contains_iff (s needle : String) : contains s needle = true ↔
    ∃ before after, s = before ++ needle ++ after := by
  rw [contains, occursIn_iff]
  constructor
  · rintro ⟨before, after, same⟩
    exact ⟨String.ofList before, String.ofList after, String.toList_inj.mp (by simp [same])⟩
  · rintro ⟨before, after, rfl⟩
    exact ⟨before.toList, after.toList, by simp⟩

/-- A settled part of a text has its own lower case in that of the text. -/
theorem contains_lower_of_settled {s part : String} (settled : IsSettled part)
    (within : contains s part = true) : contains (lower s) (lower part) = true := by
  obtain ⟨before, after, rfl⟩ := (contains_iff s part).mp within
  have kept : lowerBetween before.toList.reverse part.toList after.toList =
      lowerAfter [] part.toList := by
    have decides : ∀ front rest, part.toList = front ++ 'Σ' :: rest →
        Decides (front.reverse ++ []) rest := by
      intro front rest split
      rw [List.append_nil]
      exact settled front rest split
    exact lowerBetween_of_decides decides before.toList.reverse after.toList
  rw [contains, occursIn_iff, lower, lower, String.toList_ofList, String.toList_ofList]
  simp only [String.toList_append, List.append_assoc, lowerAfter_append, List.append_nil, kept]
  exact ⟨_, _, rfl⟩

/-! ### Parts that may lose it -/

/-- One of two letters is not this character. -/
private theorem exists_letter (c? : Option Char) :
    ∃ letter small, lowerChar letter = [small] ∧ letter ≠ 'Σ' ∧ startsCased [letter] = true ∧
      c? ≠ some small := by
  by_cases first : c? = some 'a'
  · exact ⟨'B', 'b', by decide +kernel, by decide, by decide +kernel, by simp [first]⟩
  · exact ⟨'A', 'a', by decide +kernel, by decide, by decide +kernel, first⟩

private theorem eq_of_occurs_cons {c : Char} {needle cs : List Char} (first : needle.head? ≠ some c)
    (long : needle.length = cs.length) (filled : needle ≠ [])
    (occurs : occursIn needle (c :: cs) = true) : needle = cs := by
  obtain ⟨before, after, same⟩ := (occursIn_iff _ _).mp occurs
  have lengths := congrArg List.length same
  simp only [List.length_cons, List.length_append] at lengths
  cases before with
  | nil =>
    -- it would begin with the character that it does not begin with
    obtain ⟨d, rest, rfl⟩ := List.exists_cons_of_ne_nil filled
    simp only [List.nil_append, List.cons_append, List.cons.injEq] at same
    exact absurd (by simp [same.1]) first
  | cons d before =>
    simp only [List.length_cons] at lengths
    have short : before = [] ∧ after = [] := by
      constructor <;> apply List.eq_nil_of_length_eq_zero <;> omega
    simpa [short] using (congrArg List.tail same).symm

private theorem eq_of_occurs_concat {c : Char} {needle cs : List Char}
    (last : needle.getLast? ≠ some c) (long : needle.length = cs.length) (filled : needle ≠ [])
    (occurs : occursIn needle (cs ++ [c]) = true) : needle = cs := by
  -- read backwards, the last character is the first
  have backwards : occursIn needle.reverse (c :: cs.reverse) = true := by
    obtain ⟨before, after, same⟩ := (occursIn_iff _ _).mp occurs
    refine (occursIn_iff _ _).mpr ⟨after.reverse, before.reverse, ?_⟩
    simpa using congrArg List.reverse same
  have reversed := eq_of_occurs_cons (by simpa using last) (by simpa using long)
    (by simpa using filled) backwards
  simpa using reversed

/-- A part that is not settled loses its lower case in some text. -/
theorem exists_hiding {part : String} (unsettled : ¬ IsSettled part) :
    ∃ s, contains s part = true ∧ contains (lower s) (lower part) = false := by
  simp only [IsSettled, not_forall] at unsettled
  obtain ⟨front, rest, split, undecided⟩ := unsettled
  have alone := lowerBetween_nil [] part.toList
  have filled : lowerAfter [] part.toList ≠ [] := by
    rw [split, lowerAfter_append, lowerAfter_cons]
    simp [formBetween_sigma_ne_nil]
  -- if the lower case were there, it would be that of the part with the letter beside it
  rcases formBetween_of_not_decides undecided with left | right
  · obtain ⟨letter, small, image, other, cased, first⟩ :=
      exists_letter (lowerAfter [] part.toList).head?
    refine ⟨String.ofList (letter :: part.toList), ?_, Bool.eq_false_iff.mpr fun occurs => ?_⟩
    · exact (occursIn_iff _ _).mpr ⟨[letter], [], by simp⟩
    · have lowered : lowerAfter [] (letter :: part.toList) =
          small :: lowerBetween [letter] part.toList [] := by
        rw [lowerAfter_cons, formBetween, if_neg other, image, lowerBetween_nil]
        rfl
      rw [contains, lower, lower, String.toList_ofList, String.toList_ofList, String.toList_ofList,
        lowered] at occurs
      have same := eq_of_occurs_cons first
        (by rw [← alone]; exact length_lowerBetween _ _ _ _ _) filled occurs
      rw [← alone, split] at same
      exact left letter cased (by simpa using (formBetween_of_lowerBetween same).symm)
  · obtain ⟨letter, small, image, other, cased, last⟩ :=
      exists_letter (lowerAfter [] part.toList).getLast?
    refine ⟨String.ofList (part.toList ++ [letter]), ?_, Bool.eq_false_iff.mpr fun occurs => ?_⟩
    · exact (occursIn_iff _ _).mpr ⟨[], [letter], by simp⟩
    · have lowered : lowerAfter [] (part.toList ++ [letter]) =
          lowerBetween [] part.toList [letter] ++ [small] := by
        rw [lowerAfter_append, lowerAfter_cons, formBetween, if_neg other, image]
        rfl
      rw [contains, lower, lower, String.toList_ofList, String.toList_ofList, String.toList_ofList,
        lowered] at occurs
      have same := eq_of_occurs_concat last
        (by rw [← alone]; exact length_lowerBetween _ _ _ _ _) filled occurs
      rw [← alone, split] at same
      exact right letter cased (by simpa using (formBetween_of_lowerBetween same).symm)

end TeacherRegistry.Text
