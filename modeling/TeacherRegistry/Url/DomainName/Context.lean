import TeacherRegistry.Url.DomainName.Composition
import TeacherRegistry.Url.DomainName.ContextTable

/-!
Which characters may stand beside one another in a label of a domain name: no label begins with a
mark, joiners stand only where letters join, and labels in which the direction of writing changes
keep to the rules that make them legible.
-/

namespace TeacherRegistry.Url.DomainName

/-- Whether a character is a combining mark. -/
def isMark (c : Char) : Bool :=
  Text.inTable markRanges c.toNat

/-- The class of marks that make a consonant join the next one. -/
def viramaClass : Nat := 9

def joinsBoth : Nat := 0
def joinsLeft : Nat := 1
def joinsRight : Nat := 2
def joinsThrough : Nat := 3

/-- How a character joins its neighbours. -/
def joining? (c : Char) : Option Nat :=
  Text.tableValue? joiningTypes c.toNat

/-- Whether the first character that joining does not pass over joins this way. -/
def joinsNext (type : Nat) (cs : List Char) : Bool :=
  match cs.dropWhile fun c => joining? c == some joinsThrough with
  | [] => false
  | c :: _ => joining? c == some joinsBoth || joining? c == some type

/-- Whether a joiner, or a non-joiner, may stand between two parts, the first of them reversed. -/
def joinerFits (isJoiner : Bool) (before after : List Char) : Bool :=
  match before with
  | [] => false
  | c :: _ =>
    combiningClass c == viramaClass
      || (!isJoiner && joinsNext joinsLeft before && joinsNext joinsRight after)

/-- Whether the joiners of a text are in their places, given what comes before it, reversed. -/
def joinersFit (before : List Char) : List Char → Bool
  | [] => true
  | c :: rest =>
    (c != '\u200c' && c != '\u200d' || joinerFits (c == '\u200d') before rest)
      && joinersFit (c :: before) rest

/-- Directions of characters. -/
inductive Direction where
  | leftToRight
  | rightToLeft
  | arabicLetter
  | arabicNumber
  | europeanNumber
  /-- Separators and terminators of numbers, and characters without a direction. -/
  | weak
  | mark
  /-- Separators of lines and the like, which stand in no label. -/
  | other
deriving Repr, DecidableEq

/-- The direction of a character. -/
def direction (c : Char) : Direction :=
  match Text.tableValue? directions c.toNat with
  | none => .leftToRight
  | some 1 => .rightToLeft
  | some 2 => .arabicLetter
  | some 3 => .arabicNumber
  | some 4 => .europeanNumber
  | some 10 => .mark
  | some code => if 5 ≤ code ∧ code ≤ 9 then .weak else .other

/-- Whether a direction makes a name one in which directions change. -/
def Direction.isRight (d : Direction) : Bool :=
  d == .rightToLeft || d == .arabicLetter || d == .arabicNumber

/-- Whether a label written from the left keeps to the rules: `last` is its last character that is
no mark and `middle` what is between the first and that. -/
def leftLabelFits (middle : List Direction) (last : Direction) : Bool :=
  (last == .leftToRight || last == .europeanNumber)
    && middle.all fun d => [.leftToRight, .europeanNumber, .weak, .mark].contains d

/-- Whether a label written from the right keeps to the rules. It has one kind of numbers only. -/
def rightLabelFits (middle : List Direction) (last : Direction) : Bool :=
  (last.isRight || last == .europeanNumber)
    && (middle.all fun d => d.isRight || [.europeanNumber, .weak, .mark].contains d)
    && !((last :: middle).contains .arabicNumber && (last :: middle).contains .europeanNumber)

/-- Whether a label keeps to the rules of names in which directions change. -/
def directionsFit (label : List Char) : Bool :=
  match label.map direction with
  | [] => true
  | first :: tail =>
    let fits (middle : List Direction) (last : Direction) : Bool :=
      if first == .leftToRight then leftLabelFits middle last else rightLabelFits middle last
    (first == .leftToRight || first == .rightToLeft || first == .arabicLetter)
      && match tail.reverse.dropWhile (· == .mark) with
        | [] => true
        | last :: middle => fits middle last

/-- Whether a label may stand in a name, the directions of its characters apart. -/
def isWellFormed (label : List Char) : Bool :=
  !label.head?.any isMark && joinersFit [] label

/-- Whether the directions of the characters in the labels of a name are legible. -/
def isLegible (labels : List (List Char)) : Bool :=
  !(labels.any fun label => label.any fun c => (direction c).isRight) || labels.all directionsFit

end TeacherRegistry.Url.DomainName
