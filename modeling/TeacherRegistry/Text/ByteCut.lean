/-!
Cutting texts at counts of bytes. A cut inside a character is none.
-/

namespace TeacherRegistry.Text

/-- The number of bytes that characters take. -/
def byteCount (cs : List Char) : Nat :=
  cs.foldr (fun c n => c.utf8Size + n) 0

/-- What follows the first `n` bytes; `none` if they end inside a character or there are fewer. -/
def dropBytes? : List Char → Nat → Option (List Char)
  | cs, 0 => some cs
  | [], _ + 1 => none
  | c :: rest, n + 1 =>
    if c.utf8Size ≤ n + 1 then dropBytes? rest (n + 1 - c.utf8Size) else none

/-- The first `n` bytes; `none` if they end inside a character or there are fewer. -/
def takeBytes? : List Char → Nat → Option (List Char)
  | _, 0 => some []
  | [], _ + 1 => none
  | c :: rest, n + 1 =>
    if c.utf8Size ≤ n + 1 then (takeBytes? rest (n + 1 - c.utf8Size)).map (c :: ·) else none

/-- Between the byte counts `start` and `stop`. -/
def betweenBytes? (cs : List Char) (start stop : Nat) : Option (List Char) :=
  (dropBytes? cs start).bind (takeBytes? · (stop - start))

end TeacherRegistry.Text
