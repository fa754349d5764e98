import TeacherRegistry.Url.DomainName.CompositionTable

/-!
Canonical composition. A text is taken apart into letters and marks, the marks after a letter are
put into the order of their classes, and letters and marks that have a character of their own are
put together again; so two texts that are written alike become the same.
-/

namespace TeacherRegistry.Url.DomainName

/-- The combining class of a character; letters have class 0. -/
def combiningClass (c : Char) : Nat :=
  (Text.tableValue? combiningClasses c.toNat).getD 0

/-- Syllables of Hangul: a leading consonant, a vowel and perhaps a trailing consonant make one
character, by arithmetic on their places. -/
def hangulBase : Nat := 0xAC00
def leadingBase : Nat := 0x1100
def vowelBase : Nat := 0x1161
def trailingBase : Nat := 0x11A7
def leadingCount : Nat := 19
def vowelCount : Nat := 21
def trailingCount : Nat := 28
def hangulCount : Nat := leadingCount * vowelCount * trailingCount

/-- The parts of a character that is composed of two. -/
def parts? (n : Nat) : Option (Nat × Nat) :=
  if hangulBase ≤ n ∧ n < hangulBase + hangulCount then
    let place := n - hangulBase
    if place % trailingCount = 0 then
      some (leadingBase + place / (vowelCount * trailingCount),
        vowelBase + place % (vowelCount * trailingCount) / trailingCount)
    else some (n - place % trailingCount, trailingBase + place % trailingCount)
  else compositions.findSome? fun
    | [first, second, composed] => if composed = n then some (first, second) else none
    | _ => none

/-- The character that two characters compose to. -/
def compose? (first second : Nat) : Option Nat :=
  if leadingBase ≤ first ∧ first < leadingBase + leadingCount then
    if vowelBase ≤ second ∧ second < vowelBase + vowelCount then
      some (hangulBase
        + ((first - leadingBase) * vowelCount + (second - vowelBase)) * trailingCount)
    else none
  else if hangulBase ≤ first ∧ first < hangulBase + hangulCount
      ∧ (first - hangulBase) % trailingCount = 0
      ∧ trailingBase < second ∧ second < trailingBase + trailingCount then
    some (first + (second - trailingBase))
  else compositions.findSome? fun
    | [a, b, composed] => if a = first ∧ b = second then some composed else none
    | _ => none

/-- Takes a character apart, `depth` times over. -/
def decompose : Nat → Nat → List Nat
  | 0, n => [n]
  | depth + 1, n =>
    match parts? n with
    | some (first, second) => decompose depth first ++ [second]
    | none => [n]

/-- How often a character can be taken apart: a letter has at most this many marks. -/
def decompositionDepth : Nat := 4

/-- Puts a mark before those of a higher class at the front of a reversed text. -/
def insertMark (mark : Char) : List Char → List Char
  | [] => [mark]
  | c :: rest =>
    if combiningClass mark < combiningClass c then c :: insertMark mark rest
    else mark :: c :: rest

/-- A text with the marks after every letter in the order of their classes. -/
def orderMarks (cs : List Char) : List Char :=
  (cs.foldl (fun reversed c =>
    if combiningClass c = 0 then c :: reversed else insertMark c reversed) []).reverse

/-- A text in the course of being put together: what is done, last first, the letter that marks may
join, and the marks after it that did not, last first. -/
structure Composing where
  done : List Char
  letter : Option Char
  marks : List Char

namespace Composing

/-- Everything that has been read, last first. -/
def flush (state : Composing) : List Char :=
  state.marks ++ (state.letter.toList ++ state.done)

/-- Reads one more character. A mark joins the letter unless one of its class or a higher one stands
between them; another letter joins it only if nothing stands between them. -/
def push (state : Composing) (c : Char) : Composing :=
  let free := match state.marks with
    | [] => true
    | mark :: _ => combiningClass mark < combiningClass c
  let composed := if free then state.letter.bind fun letter => compose? letter.toNat c.toNat
    else none
  match composed with
  | some n => { state with letter := some (Char.ofNat n) }
  | none =>
    if combiningClass c = 0 then ⟨state.flush, some c, []⟩
    else { state with marks := c :: state.marks }

end Composing

/-- A text with everything put together that has a character of its own. -/
def normalize (cs : List Char) : List Char :=
  let apart := cs.flatMap fun c => (decompose decompositionDepth c.toNat).map Char.ofNat
  ((orderMarks apart).foldl Composing.push ⟨[], none, []⟩).flush.reverse

end TeacherRegistry.Url.DomainName
