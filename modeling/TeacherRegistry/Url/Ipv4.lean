import TeacherRegistry.Url.Percent

/-!
Four-byte host addresses. A host whose last part is a number is such an address or nothing: up to
four numbers, each in decimal, octal or hexadecimal, the last filling all bytes that are left.
-/

namespace TeacherRegistry.Url

/-- One part of an address: `some none` for a number too large for any address. -/
def ipv4Number? (part : List Char) : Option (Option Nat) :=
  let (base, digits) := match part with
    | '0' :: 'x' :: rest | '0' :: 'X' :: rest => (16, rest)
    | '0' :: c :: rest => (8, c :: rest)
    | other => (10, other)
  if part = [] then none
  else if digits = [] then some (some 0)
  else do
    let values ← digits.mapM hexValue?
    if values.all (· < base) then
      let n := values.foldl (fun n d => n * base + d) 0
      some (if n < UInt32.size then some n else none)
    else none

/-- The parts of a host name, without the empty part after a trailing dot. -/
def hostParts (host : List Char) : List (List Char) :=
  let parts := host.splitOn '.'
  if parts.getLast? = some [] then parts.dropLast else parts

/-- Whether the last part of a host name is a number, or consists of digits. -/
def endsInNumber (host : List Char) : Bool :=
  match (hostParts host).getLast? with
  | none => false
  | some [] => false
  | some part => part.all Char.isDigit || (ipv4Number? part).isSome

/-- What one byte counts that has `n` bytes after it. -/
def addressUnit (n : Nat) : Nat := Nat.pow 256 n

/-- The address a host name denotes. -/
def ipv4? (host : List Char) : Option Nat := do
  let parts := hostParts host
  if 4 < parts.length then none
  else
    let numbers ← parts.mapM fun part => (ipv4Number? part).join
    let leading := numbers.dropLast
    let last ← numbers.getLast?
    if last < addressUnit (4 - leading.length) ∧ leading.all (· < 256) then
      let high := leading.foldl (fun n byte => n * 256 + byte) 0
      some (high * addressUnit (4 - leading.length) + last)
    else none

/-- Four decimal numbers with dots between them. -/
def ipv4Text (address : Nat) : List Char :=
  let byte (i : Nat) := Nat.toDigits 10 (address / addressUnit i % 256)
  byte 3 ++ '.' :: byte 2 ++ '.' :: byte 1 ++ '.' :: byte 0

end TeacherRegistry.Url
