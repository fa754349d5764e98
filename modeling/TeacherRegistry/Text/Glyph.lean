/-!
Byte texts read as UTF-8. Reading never fails: a byte that belongs to no character is kept as a
stray byte, so that a reader can refuse it where it matters and pass over it where it does not.
-/

namespace TeacherRegistry.Text

/-- One unit of a byte text: a character, or a byte that is part of none. -/
inductive Glyph where
  | char (c : Char)
  | stray (b : UInt8)
deriving Repr, DecidableEq

/-- The low six bits of a continuation byte. -/
def continuation? (b : UInt8) : Option Nat :=
  if 0x80 ≤ b ∧ b < 0xC0 then some (b.toNat - 0x80) else none

/-- The character at the front of a byte text, with what follows it. Overlong forms and surrogates
are no characters. -/
def frontChar? : List UInt8 → Option (Char × List UInt8)
  | [] => none
  | a :: rest =>
    if a < 0x80 then some (Char.ofNat a.toNat, rest)
    else if 0xC2 ≤ a ∧ a < 0xE0 then
      match rest with
      | b :: rest => (continuation? b).map fun x =>
          (Char.ofNat ((a.toNat - 0xC0) * 64 + x), rest)
      | [] => none
    else if 0xE0 ≤ a ∧ a < 0xF0 then
      match rest with
      | b :: c :: rest => do
        let n := ((a.toNat - 0xE0) * 64 + (← continuation? b)) * 64 + (← continuation? c)
        if 0x800 ≤ n ∧ n.isValidChar then some (Char.ofNat n, rest) else none
      | _ => none
    else if 0xF0 ≤ a ∧ a < 0xF5 then
      match rest with
      | b :: c :: d :: rest => do
        let high := ((a.toNat - 0xF0) * 64 + (← continuation? b)) * 64 + (← continuation? c)
        let n := high * 64 + (← continuation? d)
        if 0x10000 ≤ n ∧ n.isValidChar then some (Char.ofNat n, rest) else none
      | _ => none
    else none

/-- Reads bytes one unit at a time. After a character of several bytes the count `skip` says how
many of the following bytes belong to it. -/
def unitsAfter (skip : Nat) : List UInt8 → List Glyph
  | [] => []
  | b :: rest =>
    match skip with
    | skip + 1 => unitsAfter skip rest
    | 0 =>
      match frontChar? (b :: rest) with
      | some (c, _) => .char c :: unitsAfter (c.utf8Size - 1) rest
      | none => .stray b :: unitsAfter 0 rest

/-- The units of a byte text. -/
def glyphs (bytes : ByteArray) : List Glyph :=
  match String.fromUTF8? bytes with
  | some s => s.toList.map .char
  | none => unitsAfter 0 bytes.toList

/-- The units of a text in UTF-8 are its characters. -/
theorem glyphs_toUTF8 (s : String) : glyphs s.toUTF8 = s.toList.map .char := by
  have whole : String.fromUTF8? s.toUTF8 = some s := by
    simp [String.fromUTF8?, String.toUTF8, s.isValidUTF8, String.fromUTF8]
  simp only [glyphs, whole]

end TeacherRegistry.Text
