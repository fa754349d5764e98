/-!
Powers of two and of ten.
-/

namespace TeacherRegistry

/-- The power `2 ^ n`. -/
def twoTo (n : Nat) : Nat := Nat.pow 2 n

/-- The power `10 ^ n`. -/
def tenTo (n : Nat) : Nat := Nat.pow 10 n

end TeacherRegistry
