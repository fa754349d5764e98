/-!
Runs of characters with regular case forms, the form in which tables of case forms are kept.
-/

namespace TeacherRegistry.Text

/-- Characters `first`, `first + step`, … up to `last`, whose forms in the other case start at
`image` and keep the same distances. -/
structure CaseRun where
  first : Nat
  last : Nat
  step : Nat
  image : Nat
deriving Repr

/-- The code point of the form that a run gives to code point `n`, if `n` is in it. -/
def CaseRun.form? (run : CaseRun) (n : Nat) : Option Nat :=
  if run.first ≤ n ∧ n ≤ run.last ∧ (n - run.first) % run.step = 0 then
    some (run.image + (n - run.first))
  else none

end TeacherRegistry.Text
