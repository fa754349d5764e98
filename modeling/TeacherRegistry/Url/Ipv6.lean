import TeacherRegistry.Url.Percent

/-!
Eight-piece host addresses: hexadecimal pieces with colons between them, of which the last two may
be given as four decimal bytes. One double colon stands for a run of zero pieces.
-/

namespace TeacherRegistry.Url

/-- A piece of one to four hexadecimal digits. -/
def ipv6Piece? (digits : List Char) : Option Nat := do
  if digits = [] ∨ 4 < digits.length then none
  else return (← digits.mapM hexValue?).foldl (fun n d => n * 16 + d) 0

/-- A decimal byte without leading zeros. -/
def decimalByte? (digits : List Char) : Option Nat :=
  let padded := digits.head? = some '0' ∧ 1 < digits.length
  if digits = [] ∨ !digits.all Char.isDigit ∨ padded then none
  else
    let n := digits.foldl (fun n c => n * 10 + (c.toNat - '0'.toNat)) 0
    if n < 256 then some n else none

/-- The two pieces that four decimal bytes make. -/
def ipv6Tail? (text : List Char) : Option (List Nat) := do
  match ← (text.splitOn '.').mapM decimalByte? with
  | [a, b, c, d] => some [a * 256 + b, c * 256 + d]
  | _ => none

/-- Pieces with single colons between them; `bytes` says whether the last may be four bytes. -/
def ipv6Pieces? (bytes : Bool) (text : List Char) : Option (List Nat) :=
  if text = [] then some []
  else do
    let parts := text.splitOn ':'
    let last ← parts.getLast?
    let leading ← parts.dropLast.mapM ipv6Piece?
    let tail ← if bytes && last.contains '.' then ipv6Tail? last
      else (ipv6Piece? last).map fun n => [n]
    return leading ++ tail

/-- The text before and after the first double colon. -/
def splitDoubleColon : List Char → Option (List Char × List Char)
  | ':' :: ':' :: rest => some ([], rest)
  | c :: rest => (splitDoubleColon rest).map fun (before, after) => (c :: before, after)
  | [] => none

/-- The eight pieces of the address that stands between the brackets. -/
def ipv6? (text : List Char) : Option (List Nat) :=
  match splitDoubleColon text with
  | none => do
    let pieces ← ipv6Pieces? true text
    if pieces.length = 8 then some pieces else none
  | some (before, after) => do
    let left ← ipv6Pieces? false before
    let right ← ipv6Pieces? true after
    if left.length + right.length ≤ 7 then
      some (left ++ List.replicate (8 - left.length - right.length) 0 ++ right)
    else none

/-- The start and length of the first longest run of zeros. -/
def longestZeroRun (pieces : List Nat) : Nat × Nat :=
  let runAt (i : Nat) := ((pieces.drop i).takeWhile (· == 0)).length
  (List.range pieces.length).foldl
    (fun best i => if best.2 < runAt i then (i, runAt i) else best) (0, 0)

/-- Pieces with colons between them. -/
def piecesText (pieces : List Nat) : List Char :=
  [':'].intercalate (pieces.map (Nat.toDigits 16))

/-- The shortest form of an address, in which the first longest run of at least two zero pieces is
written as a double colon. -/
def ipv6Text (pieces : List Nat) : List Char :=
  let (start, length) := longestZeroRun pieces
  if length < 2 then piecesText pieces
  else piecesText (pieces.take start) ++ ':' :: ':' :: piecesText (pieces.drop (start + length))

end TeacherRegistry.Url
