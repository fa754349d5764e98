import TeacherRegistry.Proofs.ValidRecords

/-!
# Numbers typed piece by piece

With every key the rule for identification numbers is applied to all that stands in the field. What
it has thrown away before makes no difference: digits are thrown away only behind ten others, and all
else would be thrown away again. And the check of a record that is to be sent, which is written down
apart from the rule, lets exactly those numbers through that the rule would leave as they are.
-/

namespace TeacherRegistry

open String (join)

namespace Teacher

/-! ### What is kept -/

/-- The digits `0` to `9` of a text, in their order. -/
def digitsOf (s : String) : List Char :=
  s.toList.filter fun c => '0' ≤ c && c ≤ '9'

/-- The longest of the beginnings of a list that have no more than so many members. -/
structure IsLongestStart (limit : Nat) (start whole : List Char) : Prop where
  starts : start <+: whole
  fits : start.length ≤ limit
  longest : ∀ other, other <+: whole → other.length ≤ limit → other <+: start

theorem isLongestStart_take (limit : Nat) (whole : List Char) :
    IsLongestStart limit (whole.take limit) whole where
  starts := List.take_prefix limit whole
  fits := List.length_take_le limit whole
  longest := fun _ starts fits => List.prefix_take_iff.mpr ⟨starts, fits⟩

theorem toList_cleanIdNumber (s : String) :
    (cleanIdNumber s).toList = (digitsOf s).take idNumberLimit := by
  have same : (fun c : Char => decide ('0' ≤ c) && decide (c ≤ '9')) = Char.isDigit := by
    funext c
    exact Bool.eq_iff_iff.mpr (by simp [isDigit_iff])
  rw [cleanIdNumber, String.toList_ofList, digitsOf, same]

theorem digitsOf_append (a b : String) : digitsOf (a ++ b) = digitsOf a ++ digitsOf b := by
  simp only [digitsOf, String.toList_append, List.filter_append]

/-- What is kept is digits already. -/
theorem digitsOf_cleanIdNumber (s : String) :
    digitsOf (cleanIdNumber s) = (cleanIdNumber s).toList := by
  rw [digitsOf, List.filter_eq_self, toList_cleanIdNumber]
  intro c among
  exact (List.mem_filter.mp (List.mem_of_mem_take among)).2

private theorem take_take_append (limit : Nat) (xs ys : List Char) :
    (xs.take limit ++ ys).take limit = (xs ++ ys).take limit := by
  -- where something has been cut off there is no room for more
  have room : limit - min limit xs.length = limit - xs.length := by omega
  simp only [List.take_append, List.take_take, Nat.min_self, List.length_take, room]

/-- What has been thrown away before makes no difference. -/
theorem cleanIdNumber_append (a b : String) :
    cleanIdNumber (cleanIdNumber a ++ b) = cleanIdNumber (a ++ b) := by
  apply String.toList_inj.mp
  rw [toList_cleanIdNumber, toList_cleanIdNumber, digitsOf_append, digitsOf_append,
    digitsOf_cleanIdNumber, toList_cleanIdNumber, take_take_append]

theorem cleanIdNumber_idem (s : String) : cleanIdNumber (cleanIdNumber s) = cleanIdNumber s := by
  simpa using cleanIdNumber_append s ""

/-! ### Typing -/

/-- The record after one more piece has been typed behind its number. -/
def typeBehind (t : Teacher) (piece : String) : Teacher :=
  t.set .idNumber (t.idNumber ++ piece)

/-- However a text is cut into pieces, typing them in turn comes to the same as typing it at once. -/
theorem foldl_typeBehind (t : Teacher) (first : String) (pieces : List String) :
    pieces.foldl typeBehind (t.set .idNumber first) = t.set .idNumber (first ++ join pieces) := by
  induction pieces generalizing first with
  | nil => simp
  | cons piece rest ih =>
    have typed : (t.set .idNumber first).typeBehind piece = t.set .idNumber (first ++ piece) := by
      simp only [typeBehind, set, cleanIdNumber_append]
    rw [List.foldl_cons, typed, ih, String.join_cons, String.append_assoc]

/-! ### The check -/

/-- The rule leaves a text as it is exactly if it is an identification number or empty. -/
theorem cleanIdNumber_eq_self_iff (s : String) : cleanIdNumber s = s ↔ isIdNumber s = true := by
  constructor
  · intro same
    rw [← same]
    exact isIdNumber_cleanIdNumber s
  · intro number
    simp only [isIdNumber, Bool.and_eq_true, decide_eq_true_eq, List.all_eq_true] at number
    obtain ⟨few, digits⟩ := number
    rw [cleanIdNumber, List.filter_eq_self.mpr digits, List.take_of_length_le few,
      String.ofList_toList]

/-- All fields of a record but its number are as they have to be. -/
structure IsSoundBesides (t : Teacher) : Prop where
  name : Text.isBlank t.name = false
  email : Text.isBlank t.email = false
  address : '@' ∈ t.email.toList
  specialty : Text.isBlank t.specialty = false

theorem fault?_eq_none_iff_of_besides {t : Teacher} (besides : t.IsSoundBesides) :
    t.fault? = none ↔ t.idNumber ≠ "" ∧ cleanIdNumber t.idNumber = t.idNumber := by
  have named : Text.isBlank t.name ≠ true := by simp [besides.name]
  have mailed : Text.isBlank t.email ≠ true := by simp [besides.email]
  have special : Text.isBlank t.specialty ≠ true := by simp [besides.specialty]
  rw [cleanIdNumber_eq_self_iff, ← passesAsIdNumber_eq]
  -- only the first two checks are left
  by_cases missing : t.idNumber = "" <;> by_cases passes : passesAsIdNumber t.idNumber = true <;>
    simp [fault?, missing, passes, named, mailed, special, besides.address]

/-- The rule for identification numbers keeps the longest beginning of the digits of a text that has
at most ten of them, and so it may be applied as often as one likes while a text is typed. With all
else in order, a record may be sent exactly if it has a number that the rule leaves as it is. -/
theorem keystroke_law :
    (∀ a b, cleanIdNumber (a ++ b) = cleanIdNumber (cleanIdNumber a ++ b)) ∧
    (∀ s, cleanIdNumber (cleanIdNumber s) = cleanIdNumber s) ∧
    (∀ (t : Teacher) (first : String) (pieces : List String),
      pieces.foldl typeBehind (t.set .idNumber first) = t.set .idNumber (first ++ join pieces)) ∧
    (∀ s, IsLongestStart 10 (cleanIdNumber s).toList (digitsOf s)) ∧
    ∀ t : Teacher, t.IsSoundBesides →
      (t.fault? = none ↔ t.idNumber ≠ "" ∧ cleanIdNumber t.idNumber = t.idNumber) := by
  refine ⟨fun a b => (cleanIdNumber_append a b).symm, cleanIdNumber_idem, foldl_typeBehind, ?_,
    fun t besides => fault?_eq_none_iff_of_besides besides⟩
  intro s
  rw [toList_cleanIdNumber]
  exact isLongestStart_take idNumberLimit (digitsOf s)

/-- A number with a blank in it is a different one under the rule, and may not be sent. -/
theorem keystroke_law_spaced :
    let t : Teacher := ⟨none, "12 345", "Ana", "ana@x.com", "Math"⟩
    t.IsSoundBesides ∧ cleanIdNumber t.idNumber = "12345" ∧ t.fault? ≠ none := by
  intro t
  have besides : t.IsSoundBesides := ⟨by decide, by decide, by decide, by decide⟩
  have cleaned : cleanIdNumber t.idNumber = "12345" := by decide
  refine ⟨besides, cleaned, fun sound => ?_⟩
  have kept := ((keystroke_law.2.2.2.2 t besides).mp sound).2
  rw [cleaned] at kept
  exact absurd kept (by decide)

end Teacher

end TeacherRegistry
