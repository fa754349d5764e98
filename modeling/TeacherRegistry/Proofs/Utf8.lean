import Mathlib.Tactic.SplitIfs
import TeacherRegistry.Proofs.PercentCoding
import TeacherRegistry.Text.Glyph

/-!
# Characters in bytes

Bytes that are read without a stray one among them are the bytes of the characters that were read.
-/

namespace TeacherRegistry.Text

private theorem toList_loop (bytes : ByteArray) (i : Nat) (read : List UInt8) :
    ByteArray.toList.loop bytes i read = read.reverse ++ bytes.data.toList.drop i := by
  fun_induction ByteArray.toList.loop bytes i read with
  | case1 i read inside ih =>
    have bound : i < bytes.data.toList.length := by simpa using inside
    have here : bytes.get! i = bytes.data.toList[i] :=
      getElem!_pos bytes.data i (by simpa using inside)
    rw [ih, here, List.reverse_cons, List.append_assoc, List.drop_eq_getElem_cons bound,
      List.singleton_append]
  | case2 i read outside =>
    have bound : bytes.data.toList.length ≤ i := by simpa using outside
    rw [List.drop_eq_nil_of_le bound, List.append_nil]

theorem toList_eq_data (bytes : ByteArray) : bytes.toList = bytes.data.toList := by
  rw [ByteArray.toList, toList_loop, List.reverse_nil, List.nil_append, List.drop_zero]

private theorem toNat_of_continuation {b : UInt8} {x : Nat} (follows : continuation? b = some x) :
    x < 64 ∧ b.toNat = x + 128 := by
  unfold continuation? at follows
  split at follows
  next range =>
    have low : 128 ≤ b.toNat := UInt8.le_iff_toNat_le.mp range.1
    have high : b.toNat < 192 := UInt8.lt_iff_toNat_lt.mp range.2
    have value := Option.some.inj follows
    omega
  · cases follows

/-- The bytes of a character are given by its code point. -/
private theorem utf8EncodeChar_ofNat {n : Nat} (valid : n.isValidChar) :
    String.utf8EncodeChar (Char.ofNat n) =
      if n ≤ 127 then [UInt8.ofNat n]
      else if n ≤ 2047 then [UInt8.ofNat (n / 64 % 32 + 192), UInt8.ofNat (n % 64 + 128)]
      else if n ≤ 65535 then
        [UInt8.ofNat (n / 4096 % 16 + 224), UInt8.ofNat (n / 64 % 64 + 128),
          UInt8.ofNat (n % 64 + 128)]
      else
        [UInt8.ofNat (n / 262144 % 8 + 240), UInt8.ofNat (n / 4096 % 64 + 128),
          UInt8.ofNat (n / 64 % 64 + 128), UInt8.ofNat (n % 64 + 128)] := by
  have code : (Char.ofNat n).val.toNat = n := by
    rw [Char.ofNat, dif_pos valid]
    rfl
  rw [String.utf8EncodeChar.eq_1, code]

private theorem eq_of_ofNat {b : UInt8} {n : Nat} (same : n = b.toNat) : UInt8.ofNat n = b := by
  rw [same, UInt8.ofNat_toNat]

private theorem encode_two {a b : UInt8} {x : Nat} (low : 0xC2 ≤ a) (high : a < 0xE0)
    (follows : continuation? b = some x) :
    String.utf8EncodeChar (Char.ofNat ((a.toNat - 0xC0) * 64 + x)) = [a, b] := by
  have low : 194 ≤ a.toNat := UInt8.le_iff_toNat_le.mp low
  have high : a.toNat < 224 := UInt8.lt_iff_toNat_lt.mp high
  obtain ⟨small, second⟩ := toNat_of_continuation follows
  rw [utf8EncodeChar_ofNat (Or.inl (by omega)), if_neg (by omega), if_pos (by omega),
    eq_of_ofNat (b := a) (by omega), eq_of_ofNat (b := b) (by omega)]

private theorem encode_three {a b c : UInt8} {x y : Nat} (low : 0xE0 ≤ a) (high : a < 0xF0)
    (second : continuation? b = some x) (third : continuation? c = some y)
    (long : 0x800 ≤ ((a.toNat - 0xE0) * 64 + x) * 64 + y)
    (valid : (((a.toNat - 0xE0) * 64 + x) * 64 + y).isValidChar) :
    String.utf8EncodeChar (Char.ofNat (((a.toNat - 0xE0) * 64 + x) * 64 + y)) = [a, b, c] := by
  have low : 224 ≤ a.toNat := UInt8.le_iff_toNat_le.mp low
  have high : a.toNat < 240 := UInt8.lt_iff_toNat_lt.mp high
  obtain ⟨smallX, second⟩ := toNat_of_continuation second
  obtain ⟨smallY, third⟩ := toNat_of_continuation third
  rw [utf8EncodeChar_ofNat valid, if_neg (by omega), if_neg (by omega), if_pos (by omega),
    eq_of_ofNat (b := a) (by omega), eq_of_ofNat (b := b) (by omega),
    eq_of_ofNat (b := c) (by omega)]

private theorem encode_four {a b c d : UInt8} {x y z : Nat} (low : 0xF0 ≤ a) (high : a < 0xF5)
    (second : continuation? b = some x) (third : continuation? c = some y)
    (fourth : continuation? d = some z)
    (long : 0x10000 ≤ (((a.toNat - 0xF0) * 64 + x) * 64 + y) * 64 + z)
    (valid : ((((a.toNat - 0xF0) * 64 + x) * 64 + y) * 64 + z).isValidChar) :
    String.utf8EncodeChar (Char.ofNat ((((a.toNat - 0xF0) * 64 + x) * 64 + y) * 64 + z)) =
      [a, b, c, d] := by
  have low : 240 ≤ a.toNat := UInt8.le_iff_toNat_le.mp low
  have high : a.toNat < 245 := UInt8.lt_iff_toNat_lt.mp high
  obtain ⟨smallX, second⟩ := toNat_of_continuation second
  obtain ⟨smallY, third⟩ := toNat_of_continuation third
  obtain ⟨smallZ, fourth⟩ := toNat_of_continuation fourth
  rw [utf8EncodeChar_ofNat valid, if_neg (by omega), if_neg (by omega), if_neg (by omega),
    eq_of_ofNat (b := a) (by omega), eq_of_ofNat (b := b) (by omega),
    eq_of_ofNat (b := c) (by omega), eq_of_ofNat (b := d) (by omega)]

/-- The character at the front of a byte text is written in the bytes that are read for it. -/
theorem eq_append_of_frontChar {bytes rest : List UInt8} {c : Char}
    (read : frontChar? bytes = some (c, rest)) : bytes = String.utf8EncodeChar c ++ rest := by
  unfold frontChar? at read
  split at read
  · cases read
  next a after =>
    split_ifs at read with one two three four
    · cases read
      have low : a.toNat < 128 := UInt8.lt_iff_toNat_lt.mp one
      rw [utf8EncodeChar_ofNat (Or.inl (by omega)), if_pos (by omega), UInt8.ofNat_toNat,
        List.singleton_append]
    · split at read
      · obtain ⟨x, second, same⟩ := Option.map_eq_some_iff.mp read
        cases same
        rw [encode_two two.1 two.2 second]
        rfl
      · cases read
    · split at read
      · obtain ⟨x, second, read⟩ := Option.bind_eq_some_iff.mp read
        obtain ⟨y, third, read⟩ := Option.bind_eq_some_iff.mp read
        simp only [Option.ite_none_right_eq_some] at read
        obtain ⟨⟨long, valid⟩, same⟩ := read
        cases same
        rw [encode_three three.1 three.2 second third long valid]
        rfl
      · cases read
    · split at read
      · obtain ⟨x, second, read⟩ := Option.bind_eq_some_iff.mp read
        obtain ⟨y, third, read⟩ := Option.bind_eq_some_iff.mp read
        obtain ⟨z, fourth, read⟩ := Option.bind_eq_some_iff.mp read
        simp only [Option.ite_none_right_eq_some] at read
        obtain ⟨⟨long, valid⟩, same⟩ := read
        cases same
        rw [encode_four four.1 four.2 second third fourth long valid]
        rfl
      · cases read

/-- The bytes of a character are read no further once its first one is. -/
private theorem unitsAfter_append (skipped rest : List UInt8) :
    unitsAfter skipped.length (skipped ++ rest) = unitsAfter 0 rest := by
  induction skipped with
  | nil => rfl
  | cons b skipped ih => rw [List.length_cons, List.cons_append, unitsAfter, ih]

private theorem eq_utf8_of_unitsAfter {bytes : List UInt8} {cs : List Char}
    (read : unitsAfter 0 bytes = cs.map .char) : bytes = Url.utf8 cs := by
  induction cs generalizing bytes with
  | nil =>
    cases bytes with
    | nil => rfl
    | cons b rest =>
      rw [unitsAfter] at read
      split at read <;> cases read
  | cons c cs ih =>
    cases bytes with
    | nil => cases read
    | cons b rest =>
      rw [unitsAfter] at read
      split at read
      next d after front =>
        obtain ⟨same, read⟩ := List.cons.inj read
        cases same
        have written := eq_append_of_frontChar front
        obtain ⟨first, more, encoded⟩ :=
          List.exists_cons_of_ne_nil (String.utf8EncodeChar_ne_nil (c := c))
        have size := String.length_utf8EncodeChar c
        rw [encoded, List.cons_append] at written
        rw [encoded] at size
        obtain ⟨rfl, split⟩ := List.cons.inj written
        rw [split, ← size, List.length_cons, Nat.add_sub_cancel, unitsAfter_append] at read
        rw [Url.utf8_cons, encoded, ← ih read, split]
        rfl
      · cases read

/-- Bytes are read as characters only if they are the bytes of these characters. -/
theorem glyphs_eq_chars_iff (bytes : ByteArray) (s : String) :
    glyphs bytes = s.toList.map .char ↔ bytes = s.toUTF8 := by
  constructor
  · intro read
    unfold glyphs at read
    split at read
    next t spelled =>
      have chars : t.toList = s.toList :=
        List.map_inj_right (fun _ _ same => Glyph.char.inj same) |>.mp read
      have same : bytes.data.toList = Url.utf8 t.toList := Url.fromUTF8?_eq_some_iff.mp spelled
      rw [← String.toList_inj.mp chars, Url.utf8_eq, ← same]
    next =>
      rw [toList_eq_data] at read
      have same := eq_utf8_of_unitsAfter read
      rw [Url.utf8_eq, ← same]
  · rintro rfl
    exact glyphs_toUTF8 s

end TeacherRegistry.Text
