import TeacherRegistry.Json.Lexeme

/-!
The text that is meant by what stands between quotes. A code of four hexadecimal digits is a
character, or half of one: the two halves of a pair must follow one another, and neither may stand
alone.
-/

namespace TeacherRegistry.Json

/-- First halves of surrogate pairs. -/
def isHighHalf (n : Nat) : Bool := 0xD800 ≤ n && n < 0xDC00

/-- Second halves of surrogate pairs. -/
def isLowHalf (n : Nat) : Bool := 0xDC00 ≤ n && n < 0xE000

/-- The character that the two halves of a pair make. -/
def joinHalves (high low : Nat) : Char :=
  Char.ofNat (0x10000 + (high - 0xD800) * 0x400 + (low - 0xDC00))

/-- The characters meant by the units between quotes, `none` at a lone half or a stray byte. -/
def RawText.chars? : RawText → Option (List Char)
  | [] => some []
  | .char c :: rest => (chars? rest).map (c :: ·)
  | .stray _ :: _ => none
  | .code high :: .code low :: rest =>
    if isHighHalf high then
      if isLowHalf low then (chars? rest).map (joinHalves high low :: ·) else none
    else if isLowHalf high then none
    else (chars? (.code low :: rest)).map (Char.ofNat high :: ·)
  | .code n :: rest =>
    if isHighHalf n || isLowHalf n then none else (chars? rest).map (Char.ofNat n :: ·)

/-- The text meant by the units between quotes. -/
def RawText.string? (units : RawText) : Option String :=
  (RawText.chars? units).map String.ofList

end TeacherRegistry.Json
