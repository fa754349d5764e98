import Mathlib.Data.Bool.AllAny
import Mathlib.Data.List.Basic
import Mathlib.Data.String.Basic
import TeacherRegistry.Proofs.PercentCoding
import TeacherRegistry.Text.LowerCase
import TeacherRegistry.Text.UpperCase

/-!
# Names in upper and lower case

Texts with one upper case may have several lower cases, and the other way round. But a text whose
lower case is a plain name has its upper case too, and among the texts of ASCII both cases tell the
same texts apart.
-/

namespace TeacherRegistry.Text

open Url (of_ascii ascii_of_isLower)

/-- Lower-case letters of names, and the underscore. The letter `k` is left out: it is the lower
case of the Kelvin sign, too, which is its own upper case. -/
def isNameChar (c : Char) : Bool :=
  c == '_' || (c.isLower && c != 'k')

/-- Whether all characters of a text are of ASCII. -/
def IsAscii (s : String) : Prop :=
  ∀ c ∈ s.toList, c.toNat < 128

instance (s : String) : Decidable (IsAscii s) :=
  decidable_of_iff (s.toList.all (·.toNat < 128) = true) List.all_iff_forall_prop

theorem ascii_of_isNameChar {c : Char} (plain : isNameChar c = true) : c.toNat < 128 := by
  rcases Bool.or_eq_true_iff.mp plain with same | letter
  · rw [eq_of_beq same]
    decide
  · exact ascii_of_isLower (Bool.and_eq_true_iff.mp letter).1

theorem utf8Size_of_ascii {c : Char} (ascii : c.toNat < 128) : c.utf8Size = 1 :=
  Char.utf8Size_eq_one_iff.mpr (UInt32.le_iff_toNat_le.mpr (Nat.le_of_lt_succ ascii))

/-- In ASCII a text has as many bytes as characters. -/
theorem utf8ByteSize_of_ascii {s : String} (ascii : IsAscii s) :
    s.utf8ByteSize = s.toList.length := by
  have each : ∀ cs : List Char, (∀ c ∈ cs, c.toNat < 128) → String.utf8Len cs = cs.length := by
    intro cs ascii
    induction cs with
    | nil => rfl
    | cons c rest ih =>
      obtain ⟨small, others⟩ := List.forall_mem_cons.mp ascii
      rw [String.utf8Len_cons, utf8Size_of_ascii small, ih others, List.length_cons]
  rw [← each s.toList ascii, ← String.utf8ByteSize_ofList, String.ofList_toList]

/-! ### Characters -/

/-- Only the first run of a table counts in front of the others. -/
theorem findSome?_of_beyond {first : CaseRun} {rest : List CaseRun} {n : Nat}
    (beyond : ∀ run ∈ rest, n < run.first) :
    (first :: rest).findSome? (·.form? n) = first.form? n := by
  rw [List.findSome?_cons, List.findSome?_eq_none_iff.mpr]
  · cases first.form? n <;> rfl
  · intro run among
    have less := beyond run among
    rw [CaseRun.form?, if_neg (by omega)]

section

variable {c : Char} (ascii : c.toNat < 128)
include ascii

theorem lowerChar_of_ascii : lowerChar c = [c.toLower] := by
  have table : lowerRuns = ⟨0x41, 0x5A, 1, 0x61⟩ :: lowerRuns.tail := rfl
  have beyond : ∀ run ∈ lowerRuns.tail, 128 ≤ run.first := by decide +kernel
  have other : c ≠ '\u0130' := by
    rintro rfl
    revert ascii
    decide
  have image : lowerChar c =
      (lowerRuns.findSome? (·.form? c.toNat)).elim [c] fun n => [Char.ofNat n] := by
    rw [lowerChar, if_neg other]
    cases lowerRuns.findSome? (·.form? c.toNat) <;> rfl
  rw [image, table,
    findSome?_of_beyond fun run among => Nat.lt_of_lt_of_le ascii (beyond run among)]
  exact of_ascii (p := fun c => ((CaseRun.mk 0x41 0x5A 1 0x61).form? c.toNat).elim [c]
    (fun n => [Char.ofNat n]) = [c.toLower]) (by decide +kernel) ascii

theorem upperChar_of_ascii : upperChar c = [c.toUpper] := by
  have table : upperRuns = ⟨0x61, 0x7A, 1, 0x41⟩ :: upperRuns.tail := rfl
  have beyond : ∀ run ∈ upperRuns.tail, 128 ≤ run.first := by decide +kernel
  have expansions : ∀ entry ∈ upperExpansions, 128 ≤ entry.1 := by decide +kernel
  have single : upperExpansions.lookup c.toNat = none := by
    rw [List.lookup_eq_none_iff]
    intro entry among
    have high := expansions entry among
    exact bne_iff_ne.mpr (by omega)
  rw [upperChar, single, table,
    findSome?_of_beyond fun run among => Nat.lt_of_lt_of_le ascii (beyond run among)]
  exact of_ascii (p := fun c => [(((CaseRun.mk 0x61 0x7A 1 0x41).form? c.toNat).map
    Char.ofNat).getD c] = [c.toUpper]) (by decide +kernel) ascii

/-- In ASCII both cases of a character are in ASCII, each has the other's cases, and only the colon
has a colon for its upper case. -/
private theorem cases_of_ascii :
    (c.toUpper.toLower = c.toLower ∧ c.toLower.toUpper = c.toUpper) ∧
      (c.toLower.toNat < 128 ∧ c.toUpper.toNat < 128) ∧ (c.toUpper = ':' → c = ':') :=
  of_ascii (p := fun c => (c.toUpper.toLower = c.toLower ∧ c.toLower.toUpper = c.toUpper) ∧
    (c.toLower.toNat < 128 ∧ c.toUpper.toNat < 128) ∧ (c.toUpper = ':' → c = ':'))
    (by decide +kernel) ascii

theorem toLower_toUpper_of_ascii : c.toUpper.toLower = c.toLower :=
  (cases_of_ascii ascii).1.1

theorem toUpper_toLower_of_ascii : c.toLower.toUpper = c.toUpper :=
  (cases_of_ascii ascii).1.2

theorem toNat_toLower_of_ascii : c.toLower.toNat < 128 :=
  (cases_of_ascii ascii).2.1.1

theorem toNat_toUpper_of_ascii : c.toUpper.toNat < 128 :=
  (cases_of_ascii ascii).2.1.2

theorem eq_of_toUpper_of_ascii (same : c.toUpper = ':') : c = ':' :=
  (cases_of_ascii ascii).2.2 same

end

/-- Beyond ASCII no character has a letter of names for its lower case. -/
theorem not_isNameChar_of_lowerChar {c : Char} (beyond : ¬ c.toNat < 128) :
    ∃ d ∈ lowerChar c, isNameChar d = false := by
  have images : ∀ run ∈ lowerRuns, run.last < 128 ∨ 128 ≤ run.image ∨
      (run.first = run.last ∧ run.image = 'k'.toNat) := by decide +kernel
  unfold lowerChar
  split
  · exact ⟨'\u0307', by simp, by decide⟩
  · split
    next n formed =>
      refine ⟨Char.ofNat n, List.mem_singleton_self _, ?_⟩
      obtain ⟨run, member, form⟩ := List.exists_of_findSome?_eq_some formed
      unfold CaseRun.form? at form
      split at form
      next inside =>
        cases form
        rcases images run member with low | high | ⟨single, kelvin⟩
        · omega
        · refine Bool.eq_false_iff.mpr fun plain => ?_
          have ascii := ascii_of_isNameChar plain
          by_cases valid : (run.image + (c.toNat - run.first)).isValidChar
          · rw [Char.ofNat, dif_pos valid] at ascii
            have number : run.image + (c.toNat - run.first) < 128 := ascii
            omega
          -- a number that is none of a character stands for the character zero
          · rw [Char.ofNat, dif_neg valid] at plain
            cases plain
        · have same : c.toNat - run.first = 0 := by omega
          rw [same, kelvin]
          decide
      · cases form
    · refine ⟨c, List.mem_singleton_self _, Bool.eq_false_iff.mpr fun plain => ?_⟩
      exact beyond (ascii_of_isNameChar plain)

/-- A character whose lower case is in a name has the upper case of it. -/
theorem upperChar_of_lowerChar {c : Char} (plain : ∀ d ∈ lowerChar c, isNameChar d = true) :
    (lowerChar c).flatMap upperChar = upperChar c := by
  by_cases ascii : c.toNat < 128
  · rw [lowerChar_of_ascii ascii, List.flatMap_singleton, upperChar_of_ascii ascii,
      upperChar_of_ascii (toNat_toLower_of_ascii ascii), toUpper_toLower_of_ascii ascii]
  · obtain ⟨d, among, other⟩ := not_isNameChar_of_lowerChar ascii
    rw [plain d among] at other
    cases other

/-! ### Texts -/

private theorem flatMap_upper_of_lowerAfter {before cs ds : List Char}
    (lowered : lowerAfter before cs = ds) (plain : ∀ d ∈ ds, isNameChar d = true) :
    cs.flatMap upperChar = ds.flatMap upperChar := by
  induction cs generalizing before ds with
  | nil =>
    cases lowered
    rfl
  | cons c rest ih =>
    rw [lowerAfter] at lowered
    subst lowered
    have front := fun d (among : d ∈ _) => plain d (List.mem_append_left _ among)
    have behind := fun d (among : d ∈ _) => plain d (List.mem_append_right _ among)
    rw [List.flatMap_cons, List.flatMap_append, ih rfl behind]
    congr 1
    split at front
    · -- neither form of the small sigma is in a name
      split at front
      · exact absurd (front 'ς' (by simp)) (by decide)
      · exact absurd (front 'σ' (by simp)) (by decide)
    next other =>
      rw [if_neg other]
      exact (upperChar_of_lowerChar front).symm

/-- A text whose lower case is a name has the upper case of it. -/
theorem upper_of_lower {s name : String} (plain : ∀ c ∈ name.toList, isNameChar c = true)
    (lowered : lower s = name) : upper s = upper name := by
  subst lowered
  rw [lower, String.toList_ofList] at plain
  rw [upper, upper, lower, String.toList_ofList, flatMap_upper_of_lowerAfter rfl plain]

theorem lowerAfter_of_ascii {before cs : List Char} (ascii : ∀ c ∈ cs, c.toNat < 128) :
    lowerAfter before cs = cs.map Char.toLower := by
  induction cs generalizing before with
  | nil => rfl
  | cons c rest ih =>
    obtain ⟨small, others⟩ := List.forall_mem_cons.mp ascii
    have other : c ≠ 'Σ' := by
      rintro rfl
      revert small
      decide
    rw [lowerAfter, if_neg other, lowerChar_of_ascii small, ih others]
    rfl

theorem flatMap_upper_of_ascii {cs : List Char} (ascii : ∀ c ∈ cs, c.toNat < 128) :
    cs.flatMap upperChar = cs.map Char.toUpper := by
  rw [List.flatMap_congr fun c among => upperChar_of_ascii (ascii c among),
    ← List.map_eq_flatMap]

theorem lower_of_ascii {s : String} (ascii : IsAscii s) :
    lower s = String.ofList (s.toList.map Char.toLower) := by
  rw [lower, lowerAfter_of_ascii ascii]

theorem upper_of_ascii {s : String} (ascii : IsAscii s) :
    upper s = String.ofList (s.toList.map Char.toUpper) := by
  rw [upper, flatMap_upper_of_ascii ascii]

theorem isAscii_upper {s : String} (ascii : IsAscii s) : IsAscii (upper s) := by
  intro c among
  rw [upper_of_ascii ascii, String.toList_ofList, List.mem_map] at among
  obtain ⟨d, among, rfl⟩ := among
  exact toNat_toUpper_of_ascii (ascii d among)

theorem isAscii_capitalized {s : String} (ascii : IsAscii s) : IsAscii (capitalized s) := by
  unfold capitalized
  split
  · decide
  next c rest chars =>
    rw [IsAscii, chars] at ascii
    obtain ⟨small, others⟩ := List.forall_mem_cons.mp ascii
    rw [IsAscii, String.toList_ofList, upperChar_of_ascii small]
    exact List.forall_mem_cons.mpr ⟨toNat_toUpper_of_ascii small, others⟩

theorem lower_capitalized_of_ascii {s : String} (ascii : IsAscii s) :
    lower (capitalized s) = lower s := by
  rw [lower_of_ascii (isAscii_capitalized ascii), lower_of_ascii ascii]
  congr 1
  unfold capitalized
  split
  next chars => rw [chars, String.toList_empty]
  next c rest chars =>
    have small : c.toNat < 128 := ascii c (by rw [chars]; exact List.mem_cons_self)
    rw [chars, String.toList_ofList, upperChar_of_ascii small, List.singleton_append,
      List.map_cons, List.map_cons, toLower_toUpper_of_ascii small]

theorem notMem_capitalized_of_ascii {s : String} (ascii : IsAscii s) (free : ':' ∉ s.toList) :
    ':' ∉ (capitalized s).toList := by
  unfold capitalized
  split
  · decide
  next c rest chars =>
    have small : c.toNat < 128 := ascii c (by rw [chars]; exact List.mem_cons_self)
    rw [chars, List.mem_cons, not_or] at free
    rw [String.toList_ofList, upperChar_of_ascii small, List.singleton_append, List.mem_cons, not_or]
    exact ⟨fun same => free.1 (eq_of_toUpper_of_ascii small same.symm).symm, free.2⟩

/-- In ASCII the lower case of a text is that of its upper case. -/
theorem lower_upper_of_ascii {s : String} (ascii : IsAscii s) : lower (upper s) = lower s := by
  rw [lower_of_ascii (isAscii_upper ascii), lower_of_ascii ascii, upper_of_ascii ascii,
    String.toList_ofList, List.map_map]
  exact congrArg String.ofList
    (List.map_congr_left fun c among => toLower_toUpper_of_ascii (ascii c among))

end TeacherRegistry.Text
