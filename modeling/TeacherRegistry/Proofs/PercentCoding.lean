import Mathlib.Data.List.Flatten
import TeacherRegistry.Url.Percent

/-!
# Percent encoding of a path segment

A path segment is encoded without regard to percent signs, and that does not change what it decodes
to. A text decodes to its own bytes unless a percent sign with two digits stands in it; then it decodes
to fewer.
-/

namespace TeacherRegistry.Url

/-- The bytes of a text in UTF-8. -/
def utf8 (cs : List Char) : List UInt8 :=
  cs.flatMap String.utf8EncodeChar

theorem utf8_cons (c : Char) (cs : List Char) :
    utf8 (c :: cs) = String.utf8EncodeChar c ++ utf8 cs :=
  List.flatMap_cons

theorem utf8_eq (s : String) : s.toUTF8 = ⟨(utf8 s.toList).toArray⟩ := by
  apply ByteArray.ext
  rw [String.toUTF8, ← String.utf8Encode_toList, List.utf8Encode, utf8, List.data_toByteArray]

/-- Bytes spell a text if they are its bytes in UTF-8. -/
theorem fromUTF8?_eq_some_iff {bytes : List UInt8} {s : String} :
    String.fromUTF8? ⟨bytes.toArray⟩ = some s ↔ bytes = utf8 s.toList := by
  constructor
  · intro spelled
    unfold String.fromUTF8? at spelled
    split at spelled
    next valid =>
      have same := congrArg String.toUTF8 (Option.some.inj spelled)
      rw [utf8_eq s] at same
      exact List.toArray_inj (congrArg ByteArray.data same)
    · cases spelled
  · rintro rfl
    rw [← utf8_eq]
    simp [String.fromUTF8?, String.toUTF8, s.isValidUTF8, String.fromUTF8]

/-- A part of a text has no more bytes than the text. -/
theorem length_utf8_le {cs ds : List Char} (part : cs.Sublist ds) :
    (utf8 cs).length ≤ (utf8 ds).length :=
  (part.flatMap _).length_le

/-- What holds of the characters of ASCII one by one holds of any of them. -/
theorem of_ascii {p : Char → Prop} (each : ∀ n < 128, p (Char.ofNat n)) {c : Char}
    (ascii : c.toNat < 128) : p c := by
  rw [← Char.ofNat_toNat c]
  exact each c.toNat ascii

theorem ascii_of_le {c d : Char} (below : c ≤ d) (ascii : d.toNat < 128) : c.toNat < 128 :=
  Nat.lt_of_le_of_lt below ascii

theorem ascii_of_isLower {c : Char} (letter : c.isLower = true) : c.toNat < 128 := by
  have below : c ≤ 'z' := of_decide_eq_true (Bool.and_eq_true_iff.mp letter).2
  exact ascii_of_le below (by decide)

theorem ascii_of_isAlphanum {c : Char} (alphanumeric : c.isAlphanum = true) : c.toNat < 128 := by
  rcases Bool.or_eq_true_iff.mp alphanumeric with letter | digit
  · rcases Bool.or_eq_true_iff.mp letter with upper | lower
    · have below : c ≤ 'Z' := (of_decide_eq_true upper).2
      exact ascii_of_le below (by decide)
    · exact ascii_of_isLower lower
  · exact Nat.lt_of_le_of_lt (Char.isDigit_iff_toNat.mp digit).2 (by decide)

/-! ### Digits after a percent sign -/

/-- Whether a text begins with a percent sign and two digits. -/
def startsEscape : List Char → Bool
  | '%' :: high :: low :: _ => (hexValue? high).isSome && (hexValue? low).isSome
  | _ => false

/-- Whether a percent sign with two digits stands anywhere in a text. -/
def hasEscape : List Char → Bool
  | [] => false
  | c :: rest => startsEscape (c :: rest) || hasEscape rest

theorem hexValue?_upperHexDigit {n : Nat} (digit : n < 16) :
    hexValue? (upperHexDigit n) = some n := by
  have all : ∀ n < 16, hexValue? (upperHexDigit n) = some n := by decide
  exact all n digit

/-- A byte that is spelled out decodes to itself. -/
theorem percentDecode_percentByte (b : UInt8) (rest : List Char) :
    percentDecode (percentByte b ++ rest) = b :: percentDecode rest := by
  have high : b.toNat / 16 < 16 := by
    have := b.toNat_lt
    omega
  have low : b.toNat % 16 < 16 := Nat.mod_lt _ (by decide)
  have whole : UInt8.ofNat (16 * (b.toNat / 16) + b.toNat % 16) = b := by
    rw [Nat.div_add_mod, UInt8.ofNat_toNat]
  simp only [percentByte, List.cons_append, List.nil_append, percentDecode,
    hexValue?_upperHexDigit high, hexValue?_upperHexDigit low, whole]

theorem percentDecode_percentBytes (bytes : List UInt8) (rest : List Char) :
    percentDecode (bytes.flatMap percentByte ++ rest) = bytes ++ percentDecode rest := by
  induction bytes with
  | nil => rfl
  | cons b bytes ih =>
    rw [List.flatMap_cons, List.append_assoc, percentDecode_percentByte, ih, List.cons_append]

/-- A character that begins no escape decodes to its own bytes. -/
theorem percentDecode_cons {c : Char} {rest : List Char}
    (plain : startsEscape (c :: rest) = false) :
    percentDecode (c :: rest) = String.utf8EncodeChar c ++ percentDecode rest := by
  rw [percentDecode.eq_def]
  split
  next impossible => cases impossible
  next high low rest same =>
    cases same
    split
    next someHigh someLow => simp [startsEscape, someHigh, someLow] at plain
    · rfl
  next same =>
    cases same
    rfl

/-- The first three characters of an escape decode to one byte. -/
theorem escape_cases {c : Char} {rest : List Char} (escape : startsEscape (c :: rest) = true) :
    ∃ high low later b, c = '%' ∧ rest = high :: low :: later ∧ (hexValue? high).isSome = true ∧
      (hexValue? low).isSome = true ∧
        ∀ others, percentDecode ('%' :: high :: low :: others) = b :: percentDecode others := by
  unfold startsEscape at escape
  split at escape
  next high low later same =>
    cases same
    obtain ⟨someHigh, someLow⟩ := Bool.and_eq_true_iff.mp escape
    obtain ⟨h, isHigh⟩ := Option.isSome_iff_exists.mp someHigh
    obtain ⟨l, isLow⟩ := Option.isSome_iff_exists.mp someLow
    exact ⟨high, low, later, UInt8.ofNat (16 * h + l), rfl, rfl, someHigh, someLow,
      fun others => by rw [percentDecode, isHigh, isLow]⟩
  · cases escape

/-- A text without escapes decodes to its own bytes. -/
theorem percentDecode_of_plain {cs : List Char} (plain : hasEscape cs = false) :
    percentDecode cs = utf8 cs := by
  induction cs with
  | nil => rfl
  | cons c rest ih =>
    rw [hasEscape, Bool.or_eq_false_iff] at plain
    rw [percentDecode_cons plain.1, utf8_cons, ih plain.2]

private theorem length_utf8_cons (c : Char) (cs : List Char) :
    (utf8 cs).length + 1 ≤ (utf8 (c :: cs)).length := by
  have filled := List.length_pos_iff.mpr (String.utf8EncodeChar_ne_nil (c := c))
  rw [utf8_cons, List.length_append]
  omega

/-- Every escape makes what is decoded shorter. -/
theorem length_percentDecode (cs : List Char) :
    (percentDecode cs).length + (hasEscape cs).toNat ≤ (utf8 cs).length := by
  -- decoding goes on behind the digits of an escape, so the induction is on the length
  induction n : cs.length using Nat.strongRecOn generalizing cs with
  | ind n ih =>
    subst n
    cases cs with
    | nil => exact Nat.le_refl 0
    | cons c rest =>
      cases escape : startsEscape (c :: rest) with
      | false =>
        have rest := ih rest.length (Nat.lt_succ_self _) rest rfl
        rw [percentDecode_cons escape, hasEscape, escape, Bool.false_or, utf8_cons,
          List.length_append, List.length_append]
        omega
      | true =>
        obtain ⟨high, low, later, b, rfl, rfl, _, _, decodes⟩ := escape_cases escape
        have after := ih later.length (by simp only [List.length_cons]; omega) later rfl
        have first := length_utf8_cons '%' (high :: low :: later)
        have second := length_utf8_cons high (low :: later)
        have third := length_utf8_cons low later
        have one := Bool.toNat_le (hasEscape ('%' :: high :: low :: later))
        rw [decodes, List.length_cons]
        omega

/-- A part of a text that decodes to the bytes of the text is all of it, and has no escapes. -/
theorem eq_of_percentDecode {cs ds : List Char} (part : cs.Sublist ds)
    (decoded : percentDecode cs = utf8 ds) : cs = ds ∧ hasEscape cs = false := by
  -- an escape in the part would leave fewer bytes than the text has
  have shorter := length_percentDecode cs
  have shorter' := length_utf8_le part
  rw [decoded] at shorter
  have plain : hasEscape cs = false := by
    cases escape : hasEscape cs with
    | false => rfl
    | true =>
      rw [escape, Bool.toNat_true] at shorter
      omega
  rw [percentDecode_of_plain plain] at decoded
  have same : String.ofList cs = String.ofList ds := by
    have spelled : ∀ es : List Char,
        String.fromUTF8? ⟨(utf8 es).toArray⟩ = some (String.ofList es) := fun es =>
      fromUTF8?_eq_some_iff.mpr (by rw [String.toList_ofList])
    exact Option.some.inj ((spelled cs).symm.trans (decoded ▸ spelled ds))
  exact ⟨String.ofList_injective same, plain⟩

/-! ### Decoding a segment -/

/-- A hexadecimal digit stands for itself in a segment. -/
theorem percentChar_of_digit {c : Char} (digit : (hexValue? c).isSome = true) :
    percentChar pathEscapes c = [c] := by
  have ascii : c.toNat < 128 := by
    unfold hexValue? at digit
    split at digit
    next decimal => exact Nat.lt_of_le_of_lt (Char.isDigit_iff_toNat.mp decimal).2 (by decide)
    · split at digit
      next lower => exact ascii_of_le lower.2 (by decide)
      · split at digit
        next upper => exact ascii_of_le upper.2 (by decide)
        · cases digit
  exact of_ascii (p := fun c => (hexValue? c).isSome = true → percentChar pathEscapes c = [c])
    (by decide +kernel) ascii digit

/-- What stands in a segment for a character that is no digit does not begin with a digit. -/
theorem percentChar_of_other (c : Char) :
    ∃ d ds, percentChar pathEscapes c = d :: ds ∧ (hexValue? c = none → hexValue? d = none) := by
  unfold percentChar
  split
  · cases bytes : String.utf8EncodeChar c with
    | nil => exact absurd bytes String.utf8EncodeChar_ne_nil
    | cons b bs => exact ⟨'%', _, rfl, fun _ => by decide⟩
  · exact ⟨c, [], rfl, id⟩

theorem percentEncode_filled {cs : List Char} (filled : cs ≠ []) :
    percentEncode pathEscapes cs ≠ [] := by
  cases cs with
  | nil => exact absurd rfl filled
  | cons c rest =>
    obtain ⟨d, ds, encoded, _⟩ := percentChar_of_other c
    rw [percentEncode, List.flatMap_cons, encoded]
    exact List.cons_ne_nil d _

private theorem startsEscape_of_other {c : Char} (other : hexValue? c = none) (cs : List Char) :
    startsEscape ('%' :: c :: cs) = false ∧
      ∀ high, startsEscape ('%' :: high :: c :: cs) = false := by
  constructor
  · cases cs with
    | nil => rfl
    | cons low later => simp [startsEscape, other]
  · intro high
    simp [startsEscape, other]

private theorem percentEncode_cons (c : Char) (cs : List Char) :
    percentEncode pathEscapes (c :: cs) =
      percentChar pathEscapes c ++ percentEncode pathEscapes cs :=
  List.flatMap_cons

/-- Encoding makes no escape of a percent sign. -/
theorem startsEscape_percentEncode (cs : List Char) :
    startsEscape ('%' :: percentEncode pathEscapes cs) = startsEscape ('%' :: cs) := by
  cases cs with
  | nil => rfl
  | cons high rest =>
    rw [percentEncode_cons]
    cases isHigh : hexValue? high with
    | none =>
      obtain ⟨d, ds, encoded, other⟩ := percentChar_of_other high
      rw [encoded, List.cons_append, (startsEscape_of_other (other isHigh) _).1,
        (startsEscape_of_other isHigh _).1]
    | some h =>
      rw [percentChar_of_digit (by rw [isHigh]; rfl)]
      cases rest with
      | nil => rfl
      | cons low later =>
        rw [percentEncode_cons]
        cases isLow : hexValue? low with
        | none =>
          obtain ⟨d, ds, encoded, other⟩ := percentChar_of_other low
          rw [encoded, List.cons_append, List.cons_append, List.nil_append,
            (startsEscape_of_other (other isLow) _).2, (startsEscape_of_other isLow _).2]
        | some l =>
          rw [percentChar_of_digit (by rw [isLow]; rfl)]
          simp only [List.cons_append, List.nil_append, startsEscape]

/-- An encoded segment decodes to what the segment itself decodes to. -/
theorem percentDecode_percentEncode (cs : List Char) :
    percentDecode (percentEncode pathEscapes cs) = percentDecode cs := by
  induction n : cs.length using Nat.strongRecOn generalizing cs with
  | ind n ih =>
    subst n
    cases cs with
    | nil => rfl
    | cons c rest =>
      -- an escape is left as it is, and no other percent sign becomes one
      cases escape : startsEscape (c :: rest) with
      | false =>
        have after := ih rest.length (Nat.lt_succ_self _) rest rfl
        rw [percentEncode_cons, percentDecode_cons escape, percentChar]
        split
        · rw [percentDecode_percentBytes, after]
        · have still : startsEscape (c :: percentEncode pathEscapes rest) = false := by
            by_cases percent : c = '%'
            · rw [percent, startsEscape_percentEncode, ← percent, escape]
            · unfold startsEscape
              split
              next same => exact absurd (List.cons.inj same).1 percent
              · rfl
          rw [List.cons_append, List.nil_append, percentDecode_cons still, after]
      | true =>
        obtain ⟨high, low, later, b, rfl, rfl, isHigh, isLow, decodes⟩ := escape_cases escape
        have after := ih later.length (by simp only [List.length_cons]; omega) later rfl
        have sign : percentChar pathEscapes '%' = ['%'] := by decide
        rw [percentEncode_cons, percentEncode_cons, percentEncode_cons, sign,
          percentChar_of_digit isHigh, percentChar_of_digit isLow]
        simp only [List.cons_append, List.nil_append, decodes, after]

end TeacherRegistry.Url
