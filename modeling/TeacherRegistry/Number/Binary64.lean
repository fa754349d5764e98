import TeacherRegistry.Number.Power

/-!
Finite numbers of the 64-bit binary format, and the arithmetic that reading a decimal needs.
Every operation is its exact result rounded to the nearest number of the format, ties going to the
even significand.
-/

namespace TeacherRegistry

/-- The number `± significand · 2 ^ exponent / 2 ^ 1074`. The significand is below `2 ^ 53`, and it
is at least `2 ^ 52` unless the exponent is 0. -/
structure Binary64 where
  negative : Bool
  significand : Nat
  exponent : Nat
deriving Repr, DecidableEq

namespace Binary64

/-- Rounds `num / den` to a whole number; a tie goes to the even neighbour. -/
def roundHalfEven (num den : Nat) : Nat :=
  let floor := num / den
  let twice := 2 * (num % den)
  if twice < den ∨ (twice = den ∧ floor % 2 = 0) then floor else floor + 1

/-- The magnitude nearest to `num / den`, or `none` when it is beyond the largest one. -/
def ofRatio? (num den : Nat) : Option Binary64 :=
  let scaled := num * twoTo 1074
  let exponent := (scaled / den).log2 - 52
  let significand := roundHalfEven scaled (den * twoTo exponent)
  let (significand, exponent) :=
    if significand = twoTo 53 then (twoTo 52, exponent + 1) else (significand, exponent)
  if exponent ≤ 2045 then some ⟨false, significand, exponent⟩ else none

/-- The magnitude as a whole number of units of `2 ^ -1074`. -/
def scaled (x : Binary64) : Nat :=
  x.significand * twoTo x.exponent

def isZero (x : Binary64) : Bool :=
  x.significand == 0

/-- The product of two magnitudes. -/
def mul? (x y : Binary64) : Option Binary64 :=
  ofRatio? (x.scaled * y.scaled) (twoTo 2148)

/-- The quotient of two magnitudes, the second not zero. -/
def div? (x y : Binary64) : Option Binary64 :=
  ofRatio? x.scaled y.scaled

/-- Scales a magnitude by `10 ^ power`, one multiplication or division at a time, with powers of ten
up to `10 ^ 308`, themselves rounded to the format. `none` when the result is out of range. -/
def scaleByTen? (x : Binary64) (power : Int) : Option Binary64 := do
  if power.natAbs ≤ 308 then
    let ten ← ofRatio? (tenTo power.natAbs) 1
    if 0 ≤ power then x.mul? ten else x.div? ten
  else if x.isZero then some x
  else if 0 ≤ power then none
  else
    let largest ← ofRatio? (tenTo 308) 1
    scaleByTen? (← x.div? largest) (power + 308)
termination_by power.natAbs
decreasing_by omega

/-- The number read for `significand · 10 ^ power`. The significand is rounded before it is scaled,
so the last digit may differ from that of the nearest number. -/
def ofDecimal? (significand : Nat) (power : Int) : Option Binary64 := do
  (← ofRatio? significand 1).scaleByTen? power

end Binary64

end TeacherRegistry
