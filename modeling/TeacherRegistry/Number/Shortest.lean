import TeacherRegistry.Number.Binary64

/-!
Shortest decimals. A number of the binary format is written with the fewest digits that read back
as it, and of those with the digits nearest to it.
-/

namespace TeacherRegistry

/-- The positive decimal `digits · 10 ^ power`. -/
structure Decimal where
  digits : Nat
  power : Int
deriving Repr, DecidableEq

namespace Decimal

/-- The number of decimal digits of `n`. -/
def digitCount (n : Nat) : Nat :=
  (Nat.toDigits 10 n).length

/-- The exponent of the leading digit of `num / den`, both positive. -/
def leadingPower (num den : Nat) : Int :=
  if den ≤ num then (digitCount (num / den) : Int) - 1
  else
    let power := digitCount (den / num) - 1
    if den ≤ num * tenTo power then -(power : Int) else -(power : Int) - 1

/-- The interval of values that round to a number: between `low / den` and `high / den`, the ends
included when `closed`; the number itself is `mid / den`. -/
structure Rounding where
  low : Nat
  mid : Nat
  high : Nat
  den : Nat
  closed : Bool

/-- The values that round to the magnitude of `x`. Below a power of two the neighbour is nearer. -/
def Rounding.of (x : Binary64) : Rounding :=
  let unit := twoTo x.exponent
  let below := if x.significand = twoTo 52 ∧ x.exponent ≠ 0 then 1 else 2
  { low := (4 * x.significand - below) * unit
    mid := 4 * x.significand * unit
    high := (4 * x.significand + 2) * unit
    den := 4 * twoTo 1074
    closed := x.significand % 2 == 0 }

/-- Whether the decimal lies in the interval. -/
def Rounding.contains (r : Rounding) (d : Decimal) : Bool :=
  let num := d.digits * tenTo d.power.toNat * r.den
  let scale := tenTo (-d.power).toNat
  if r.closed then r.low * scale ≤ num ∧ num ≤ r.high * scale
  else r.low * scale < num ∧ num < r.high * scale

/-- The decimals with digits down to `10 ^ power` next to the middle, the nearer one first. -/
def Rounding.neighbours (r : Rounding) (power : Int) : List Decimal :=
  let num := r.mid * tenTo (-power).toNat
  let den := r.den * tenTo power.toNat
  let below : Decimal := ⟨num / den, power⟩
  let above : Decimal := ⟨num / den + 1, power⟩
  let twice := 2 * (num % den)
  if twice < den ∨ (twice = den ∧ below.digits % 2 = 0) then [below, above] else [above, below]

/-- A decimal in the interval, on the first grid that has one, of `count` grids from `power`
down. -/
def Rounding.firstHit (r : Rounding) : Nat → Int → Decimal
  | 0, power => ⟨(r.mid * tenTo (-power).toNat) / (r.den * tenTo power.toNat), power⟩
  | count + 1, power =>
    match (r.neighbours power).find? r.contains with
    | some d => d
    | none => r.firstHit count (power - 1)

/-- The shortest decimal that reads back as the magnitude of `x`, which is not zero. -/
def shortest (x : Binary64) : Decimal :=
  let r := Rounding.of x
  r.firstHit 17 (leadingPower r.mid r.den)

/-- How a decimal is laid out. -/
structure Layout where
  /-- The lowest exponent of the leading digit that is still written without an exponent. -/
  lowest : Int
  /-- The highest such exponent. -/
  highest : Int
  /-- Whether an exponent that is not negative carries a plus sign. -/
  plusSign : Bool

/-- Digits without trailing zeros. -/
def significantDigits (n : Nat) : List Char :=
  ((Nat.toDigits 10 n).reverse.dropWhile (· == '0')).reverse

/-- The text of a positive decimal. A whole number written out keeps one zero after the point. -/
def Layout.render (layout : Layout) (d : Decimal) : List Char :=
  let leading := d.power + (digitCount d.digits : Int) - 1
  let digits := significantDigits d.digits
  if layout.lowest ≤ leading ∧ leading ≤ layout.highest then
    if (digits.length : Int) - 1 ≤ leading then
      digits ++ List.replicate (leading.toNat + 1 - digits.length) '0' ++ ['.', '0']
    else if 0 ≤ leading then
      digits.take (leading.toNat + 1) ++ '.' :: digits.drop (leading.toNat + 1)
    else '0' :: '.' :: List.replicate (leading.natAbs - 1) '0' ++ digits
  else
    let fraction := match digits.drop 1 with
      | [] => []
      | rest => '.' :: rest
    let sign := if leading < 0 then ['-'] else if layout.plusSign then ['+'] else []
    digits.take 1 ++ fraction ++ 'e' :: sign ++ Nat.toDigits 10 leading.natAbs

end Decimal

/-- The text of a number under a layout. -/
def Binary64.render (layout : Decimal.Layout) (x : Binary64) : List Char :=
  let magnitude := if x.isZero then ['0', '.', '0'] else layout.render (Decimal.shortest x)
  if x.negative then '-' :: magnitude else magnitude

end TeacherRegistry
