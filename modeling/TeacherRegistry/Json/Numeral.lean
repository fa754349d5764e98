import TeacherRegistry.Number.Shortest
import TeacherRegistry.Text.Integer

/-!
Numbers as they are written in JSON, and the values they denote. A numeral without fraction and
exponent is a whole number when it fits 64 bits, signed or unsigned; every other numeral is a number
of the 64-bit binary format.
-/

namespace TeacherRegistry.Json

/-- A number as written: its digits, and the sign and digits of the exponent if it has one. -/
structure Numeral where
  negative : Bool
  whole : List Char
  fraction : Option (List Char)
  exponent : Option (Bool × List Char)
deriving Repr, DecidableEq

/-- The value of a number. -/
inductive Number where
  | integer (n : Int)
  | real (x : Binary64)
deriving Repr, DecidableEq

namespace Numeral

/-- The largest significand that is kept while digits are read. -/
def significandLimit : Nat := UInt64.size

/-- Appends digits to a significand as long as the result stays below the limit, and gives the
digits that were left. -/
def absorb (significand : Nat) : List Char → Nat × List Char
  | [] => (significand, [])
  | c :: rest =>
    let next := significand * 10 + (c.toNat - '0'.toNat)
    if next < significandLimit then absorb next rest else (significand, c :: rest)

/-- The value of a run of digits. -/
def value (digits : List Char) : Nat :=
  digits.foldl (fun n c => n * 10 + (c.toNat - '0'.toNat)) 0

/-- The number of the binary format that a numeral denotes, read from its leading digits. -/
def real? (n : Numeral) : Option Binary64 :=
  let (whole, dropped) := absorb 0 n.whole
  let fraction := n.fraction.getD []
  let (significand, ignored) := absorb whole fraction
  let shift : Int := match n.exponent with
    | none => 0
    | some (true, digits) => -(value digits : Int)
    | some (false, digits) => value digits
  let power := (dropped.length : Int) - ((fraction.length : Int) - ignored.length) + shift
  (Binary64.ofDecimal? significand power).map ({ · with negative := n.negative })

/-- Whether the numeral has neither fraction nor exponent. -/
def isWhole (n : Numeral) : Bool :=
  n.fraction.isNone && n.exponent.isNone

/-- The whole number a numeral denotes: below `2 ^ 64`, or negative and at least `-2 ^ 63`. A zero
with a minus sign is not a whole number. -/
def integer? (n : Numeral) : Option Int :=
  let magnitude := value n.whole
  if !n.isWhole then none
  else if n.negative then
    if 0 < magnitude ∧ magnitude ≤ Text.int64Bound.toNat then some (-(magnitude : Int)) else none
  else if magnitude < UInt64.size then some magnitude else none

/-- The value of a numeral, `none` when it is beyond the binary format. -/
def number? (n : Numeral) : Option Number :=
  match n.integer? with
  | some i => some (.integer i)
  | none => n.real?.map .real

end Numeral

/-- Numbers of the binary format are written out when the leading digit stands between the fifth
place after the point and the sixteenth before it; an exponent always carries its sign. -/
def realLayout : Decimal.Layout := ⟨-5, 15, true⟩

/-- The digits of a whole number, after a minus sign if it is negative. -/
def integerText (n : Int) : List Char :=
  if n < 0 then '-' :: Nat.toDigits 10 n.natAbs else Nat.toDigits 10 n.natAbs

/-- The text of a number. -/
def Number.text : Number → List Char
  | .integer n => integerText n
  | .real x => x.render realLayout

end TeacherRegistry.Json
