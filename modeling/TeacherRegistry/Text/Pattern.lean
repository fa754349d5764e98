import TeacherRegistry.Text.CharRange

/-!
Patterns of texts. A pattern tries its ways of matching in an order of preference; a whole text
matches if that order leads to its end. As soon as a preferred way is complete, the ways after it
are given up, so `a|ab` matches `a` and nothing else.
-/

namespace TeacherRegistry.Text

/-- The characters in some ranges, or all others. -/
structure CharSet where
  ranges : List (Nat × Nat)
  negated : Bool
deriving Repr, DecidableEq

namespace CharSet

def contains (set : CharSet) (c : Char) : Bool :=
  inRanges set.ranges c != set.negated

/-- The set of one character. -/
def single (c : Char) : CharSet :=
  ⟨[(c.toNat, c.toNat)], false⟩

/-- Every character but the line feed. -/
def inLine : CharSet :=
  { single '\n' with negated := true }

end CharSet

inductive Pattern where
  /-- Nothing. -/
  | empty
  /-- One character of a set. -/
  | one (set : CharSet)
  /-- Nothing, at the start of the text. -/
  | textStart
  /-- Nothing, at the end of the text. -/
  | textEnd
  | sequence (first second : Pattern)
  | either (preferred other : Pattern)
  /-- Any number of repetitions, many of them preferred if `eager`. -/
  | many (eager : Bool) (body : Pattern)
deriving Repr, DecidableEq

namespace Pattern

/-- One pattern after another. -/
def andThen : Pattern → Pattern → Pattern
  | .empty, second => second
  | first, second => .sequence first second

/-- How a way of matching goes on: it is complete, or reads a character of a set and leaves a
pattern to match. -/
abbrev Way := Option (CharSet × Pattern)

/-- The ways of matching, the preferred ones first, at a place of the text. -/
def ways (atStart atEnd : Bool) : Pattern → List Way
  | .empty => [none]
  | .one set => [some (set, .empty)]
  | .textStart => if atStart then [none] else []
  | .textEnd => if atEnd then [none] else []
  | .sequence first second => (ways atStart atEnd first).flatMap fun
    | none => ways atStart atEnd second
    | some (set, rest) => [some (set, rest.andThen second)]
  | .either preferred other => ways atStart atEnd preferred ++ ways atStart atEnd other
  | .many eager body =>
    let again := (ways atStart atEnd body).map fun way =>
      way.map fun (set, rest) => (set, rest.andThen (.many eager body))
    if eager then again ++ [none] else none :: again

/-- Whether the rest of a text matches one of the patterns left to match, the preferred ones first.
Ways after a complete one are given up. -/
def matchesRest (atStart : Bool) (left : List Pattern) : List Char → Bool
  | [] => (left.flatMap (ways atStart true)).contains none
  | c :: rest =>
    let under := (left.flatMap (ways atStart false)).takeWhile Option.isSome
    let read := under.filterMap fun way =>
      way.bind fun (set, rest) => if set.contains c then some rest else none
    matchesRest false read.eraseDups rest

/-- Whether a whole text matches. -/
def isMatch (pattern : Pattern) (s : String) : Bool :=
  matchesRest true [pattern] s.toList

end Pattern

end TeacherRegistry.Text
