import TeacherRegistry.Proofs.JsonRoundTrip

/-!
# Whole numbers and their plain texts

A number can be read from many texts, but it is written as one of them only: without a plus sign,
without a zero in front and without a minus sign before zero. The number that was read is written as
the same text exactly if that text is plain.
-/

namespace TeacherRegistry.Text

open Json (integerText)

/-- Whether digits are written as a number is: there are some, and no zero in front of others. -/
def isPlainDigits : List Char → Bool
  | [] => false
  | digit :: digits => (digit :: digits).all Char.isDigit && (digit != '0' || digits.isEmpty)

/-- Whether a text is the one that a whole number is written as. -/
def isPlainInteger : List Char → Bool
  | '-' :: cs => isPlainDigits cs && cs != ['0']
  | cs => isPlainDigits cs

/-! ### Digits -/

theorem digitsValue_toDigits (n : Nat) : digitsValue (Nat.toDigits 10 n) = n :=
  Json.value_toDigits n

theorem isPlainDigits_toDigits (n : Nat) : isPlainDigits (Nat.toDigits 10 n) = true := by
  obtain ⟨digit, digits, written, allDigits, lead⟩ := Json.toDigits_lead n
  rw [written, isPlainDigits, Bool.and_eq_true, List.all_eq_true]
  refine ⟨allDigits, ?_⟩
  by_cases zero : digit = '0'
  · simp [lead zero]
  · simp [zero]

theorem toNat_of_isDigit {c : Char} (digit : c.isDigit = true) :
    48 ≤ c.toNat ∧ c.toNat ≤ 57 := by
  simpa [Char.isDigit, UInt32.le_iff_toNat_le] using digit

/-- The value of an ASCII digit is the one that the digit is written for. -/
private theorem digitChar_value {c : Char} (digit : c.isDigit = true) :
    c.toNat - '0'.toNat < 10 ∧ Nat.digitChar (c.toNat - '0'.toNat) = c := by
  have range := toNat_of_isDigit digit
  have zero : '0'.toNat = 48 := rfl
  have small : c.toNat - '0'.toNat < 10 := by omega
  refine ⟨small, Char.toNat_inj.mp ?_⟩
  rw [Nat.toNat_digitChar_of_lt_ten small]
  omega

/-- Reading further digits writes them behind those that were read before. -/
private theorem toDigits_read {digits : List Char} (allDigits : ∀ c ∈ digits, c.isDigit = true)
    {value : Nat} (positive : 0 < value) :
    Nat.toDigits 10 (digits.foldl (fun value c => value * 10 + (c.toNat - '0'.toNat)) value) =
      Nat.toDigits 10 value ++ digits := by
  induction digits generalizing value with
  | nil => rw [List.foldl_nil, List.append_nil]
  | cons c digits ih =>
    obtain ⟨small, same⟩ := digitChar_value (allDigits c List.mem_cons_self)
    have next := Nat.toDigits_append_toDigits (b := 10) (by decide) positive small
    rw [Nat.toDigits_of_lt_base small, same, Nat.mul_comm] at next
    rw [List.foldl_cons, ih (fun d later => allDigits d (List.mem_cons_of_mem c later)) (by omega),
      ← next, List.append_assoc]
    rfl

/-- Plain digits are written again as they are. -/
theorem toDigits_digitsValue {cs : List Char} (plain : isPlainDigits cs = true) :
    Nat.toDigits 10 (digitsValue cs) = cs := by
  cases cs with
  | nil => cases plain
  | cons digit digits =>
    rw [isPlainDigits, Bool.and_eq_true, List.all_eq_true] at plain
    obtain ⟨allDigits, lead⟩ := plain
    obtain ⟨small, same⟩ := digitChar_value (allDigits digit List.mem_cons_self)
    have first : digitsValue (digit :: digits) =
        digits.foldl (fun value c => value * 10 + (c.toNat - '0'.toNat))
          (digit.toNat - '0'.toNat) := by
      rw [digitsValue, List.foldl_cons, Nat.zero_mul, Nat.zero_add]
    by_cases zero : digit = '0'
    -- a zero in front stands alone
    · subst zero
      have alone : digits = [] := by simpa using lead
      rw [alone]
      decide
    · have positive : 0 < digit.toNat - '0'.toNat := by
        refine Nat.pos_of_ne_zero fun none => zero ?_
        rw [← same, none]
        rfl
      rw [first, toDigits_read (fun c later => allDigits c (List.mem_cons_of_mem digit later))
        positive, Nat.toDigits_of_lt_base small, same]
      rfl

/-! ### Whole numbers -/

/-- Reads a whole number, whatever its size. -/
def integer? : List Char → Option Int
  | '-' :: digits => (digits? digits).map fun n => -(n : Int)
  | '+' :: digits => (digits? digits).map Int.ofNat
  | cs => (digits? cs).map Int.ofNat

theorem int64?_eq (s : String) : int64? s =
    ((integer? s.toList).filter fun n => -int64Bound ≤ n ∧ n < int64Bound).map Int64.ofInt := rfl

/-- Plain digits begin with no sign. -/
private theorem integer?_of_digits {cs : List Char} (plain : isPlainDigits cs = true) :
    integer? cs = some (Int.ofNat (digitsValue cs)) ∧ isPlainInteger cs = true := by
  cases cs with
  | nil => cases plain
  | cons digit digits =>
    have allDigits := plain
    rw [isPlainDigits, Bool.and_eq_true, List.all_eq_true] at allDigits
    have minus : digit ≠ '-' := by
      rintro rfl
      exact absurd (allDigits.1 '-' List.mem_cons_self) (by decide)
    have plus : digit ≠ '+' := by
      rintro rfl
      exact absurd (allDigits.1 '+' List.mem_cons_self) (by decide)
    have read : digits? (digit :: digits) = some (digitsValue (digit :: digits)) :=
      if_pos ⟨List.cons_ne_nil digit digits, List.all_eq_true.mpr allDigits.1⟩
    constructor
    · unfold integer?
      split
      next same => exact absurd (List.cons.inj same).1 minus
      next same => exact absurd (List.cons.inj same).1 plus
      next => rw [read, Option.map_some]
    · unfold isPlainInteger
      split
      next same => exact absurd (List.cons.inj same).1 minus
      next => exact plain

/-- A whole number is read from the text that it is written as. -/
theorem integer?_integerText (n : Int) : integer? (integerText n) = some n := by
  have digits := isPlainDigits_toDigits n.natAbs
  rw [integerText]
  split
  next negative =>
    have read : digits? (Nat.toDigits 10 n.natAbs) = some n.natAbs := by
      rw [digits?, if_pos, digitsValue_toDigits]
      exact ⟨Nat.toDigits_ne_nil, List.all_eq_true.mpr fun c among =>
        Nat.isDigit_of_mem_toDigits (by decide) (by decide) among⟩
    have back : -(n.natAbs : Int) = n := by omega
    rw [integer?, read]
    exact congrArg some back
  next positive =>
    have back : (n.natAbs : Int) = n := by omega
    rw [(integer?_of_digits digits).1, digitsValue_toDigits]
    exact congrArg some back

/-- The plain texts are those that whole numbers are written as. -/
theorem isPlainInteger_iff {cs : List Char} :
    isPlainInteger cs = true ↔ ∃ n, cs = integerText n := by
  constructor
  · intro plain
    unfold isPlainInteger at plain
    split at plain
    next digits =>
      rw [Bool.and_eq_true, bne_iff_ne] at plain
      obtain ⟨plain, other⟩ := plain
      have written := toDigits_digitsValue plain
      have positive : digitsValue digits ≠ 0 := by
        intro zero
        rw [zero, Nat.toDigits_zero] at written
        exact other written.symm
      refine ⟨-(digitsValue digits : Int), ?_⟩
      rw [integerText, if_pos (by omega), Int.natAbs_neg, Int.natAbs_natCast, written]
    next =>
      refine ⟨(digitsValue cs : Int), ?_⟩
      rw [integerText, if_neg (by omega), Int.natAbs_natCast, toDigits_digitsValue plain]
  · rintro ⟨n, rfl⟩
    have digits := isPlainDigits_toDigits n.natAbs
    rw [integerText]
    split
    next negative =>
      rw [isPlainInteger, digits, Bool.true_and, bne_iff_ne]
      intro zero
      have none := digitsValue_toDigits n.natAbs
      rw [zero] at none
      have absent : digitsValue ['0'] = 0 := by decide
      omega
    next => exact (integer?_of_digits digits).2

theorem mem_integerText {n : Int} {c : Char} (among : c ∈ integerText n) :
    c = '-' ∨ c.isDigit = true := by
  have digit : ∀ d ∈ Nat.toDigits 10 n.natAbs, d.isDigit = true := fun d among =>
    Nat.isDigit_of_mem_toDigits (by decide) (by decide) among
  rw [integerText] at among
  split at among
  · rcases List.mem_cons.mp among with sign | later
    · exact Or.inl sign
    · exact Or.inr (digit c later)
  · exact Or.inr (digit c among)

theorem toList_toString (n : Int) : (toString n).toList = integerText n := by
  rw [Int.toString_eq_repr, integerText]
  cases n with
  | ofNat m =>
    rw [Int.repr, Nat.toList_repr, if_neg (by simp)]
    rfl
  | negSucc m =>
    rw [Int.repr, String.toList_append, Nat.toList_repr, if_pos (by omega), Int.natAbs_negSucc]
    rfl

/-- A 64-bit integer is read from the text that it is written as. -/
theorem int64?_toString (n : Int64) : int64? (toString n.toInt) = some n := by
  have range : -int64Bound ≤ n.toInt ∧ n.toInt < int64Bound := ⟨n.le_toInt, n.toInt_lt⟩
  rw [int64?_eq, toList_toString, integer?_integerText, Option.filter_some,
    if_pos (decide_eq_true range), Option.map_some, Int64.ofInt_toInt]

/-- What a text was read as is written as that text exactly if the text is plain. -/
theorem toString_eq_iff {s : String} {n : Int64} (read : int64? s = some n) :
    toString n.toInt = s ↔ isPlainInteger s.toList = true := by
  constructor
  · rintro rfl
    exact isPlainInteger_iff.mpr ⟨n.toInt, toList_toString n.toInt⟩
  · intro plain
    obtain ⟨m, written⟩ := isPlainInteger_iff.mp plain
    rw [int64?_eq, written, integer?_integerText] at read
    obtain ⟨k, kept, same⟩ := Option.map_eq_some_iff.mp read
    obtain ⟨inside, range⟩ := Option.filter_eq_some_iff.mp kept
    cases inside
    have back : n.toInt = m := by
      rw [← same]
      have bounds := of_decide_eq_true range
      exact Int64.toInt_ofInt_of_le bounds.1 bounds.2
    exact String.toList_injective (by rw [toList_toString, back, written])

end TeacherRegistry.Text
