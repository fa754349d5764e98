/-!
Whole numbers written in decimal digits. A reader takes a sign where the range has room for one,
then digits only: no blanks, no separators, no other base.
-/

namespace TeacherRegistry.Text

/-- The value of a run of decimal digits, most significant first. -/
def digitsValue (digits : List Char) : Nat :=
  digits.foldl (fun value c => value * 10 + (c.toNat - '0'.toNat)) 0

/-- The value of a non-empty run of ASCII digits. -/
def digits? (cs : List Char) : Option Nat :=
  if cs ≠ [] ∧ cs.all Char.isDigit then some (digitsValue cs) else none

/-- Reads a number from 0 up to but not including `bound`; a plus sign may precede it. -/
def natural? (bound : Nat) (s : String) : Option Nat :=
  let digits := match s.toList with
    | '+' :: rest => rest
    | cs => cs
  (digits? digits).filter (· < bound)

/-- The least number beyond the 64-bit integers, the 63rd power of two. -/
def int64Bound : Int := 9223372036854775808

/-- Reads a 64-bit integer; a plus or minus sign may precede it. -/
def int64? (s : String) : Option Int64 :=
  let value := match s.toList with
    | '-' :: rest => (digits? rest).map fun n => -(n : Int)
    | '+' :: rest => (digits? rest).map Int.ofNat
    | cs => (digits? cs).map Int.ofNat
  (value.filter fun n => -int64Bound ≤ n ∧ n < int64Bound).map Int64.ofInt

end TeacherRegistry.Text
