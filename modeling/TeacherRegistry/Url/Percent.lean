/-!
Percent encoding. Each part of an address has its own set of ASCII characters that may not stand in
it; those, and everything beyond ASCII, are written as the bytes of their UTF-8 form.
-/

namespace TeacherRegistry.Url

/-- Controls, which no part of an address may hold. -/
def isControl (c : Char) : Bool :=
  c.toNat < 0x20 || c.toNat == 0x7F

/-- Characters that a fragment may not hold. -/
def fragmentEscapes (c : Char) : Bool :=
  isControl c || " \"<>\x60".toList.contains c

/-- Characters that a query may not hold. -/
def queryEscapes (c : Char) : Bool :=
  isControl c || " \"#<>".toList.contains c

/-- Characters that the query of a network address may not hold. -/
def specialQueryEscapes (c : Char) : Bool :=
  queryEscapes c || c == '\x27'

/-- Characters that a path segment may not hold. -/
def pathEscapes (c : Char) : Bool :=
  fragmentEscapes c || "#?\x7b\x7d".toList.contains c

/-- Characters that a user name or password may not hold. -/
def userInfoEscapes (c : Char) : Bool :=
  pathEscapes c || "/:;=@[\\]^|".toList.contains c

/-- An upper-case hexadecimal digit. -/
def upperHexDigit (n : Nat) : Char :=
  if n < 10 then Char.ofNat ('0'.toNat + n) else Char.ofNat ('A'.toNat + n - 10)

/-- One byte as a percent sign and two digits. -/
def percentByte (b : UInt8) : List Char :=
  ['%', upperHexDigit (b.toNat / 16), upperHexDigit (b.toNat % 16)]

/-- One character, encoded if `escapes` has it or it is beyond ASCII. -/
def percentChar (escapes : Char → Bool) (c : Char) : List Char :=
  if escapes c || 0x80 ≤ c.toNat then (String.utf8EncodeChar c).flatMap percentByte else [c]

/-- A text with the characters of `escapes` and those beyond ASCII encoded. -/
def percentEncode (escapes : Char → Bool) (cs : List Char) : List Char :=
  cs.flatMap (percentChar escapes)

/-- The value of a hexadecimal digit in either case. -/
def hexValue? (c : Char) : Option Nat :=
  if c.isDigit then some (c.toNat - '0'.toNat)
  else if 'a' ≤ c ∧ c ≤ 'f' then some (c.toNat - 'a'.toNat + 10)
  else if 'A' ≤ c ∧ c ≤ 'F' then some (c.toNat - 'A'.toNat + 10)
  else none

/-- The bytes of a text, where a percent sign with two digits is the byte they spell. -/
def percentDecode : List Char → List UInt8
  | [] => []
  | '%' :: high :: low :: rest =>
    match hexValue? high, hexValue? low with
    | some h, some l => UInt8.ofNat (16 * h + l) :: percentDecode rest
    | _, _ => '%'.toNat.toUInt8 :: percentDecode (high :: low :: rest)
  | c :: rest => String.utf8EncodeChar c ++ percentDecode rest

end TeacherRegistry.Url
