import TeacherRegistry.Text.LowerCase.Table

/-!
Lower case. A character is replaced by its lower-case form whatever surrounds it, except the Greek
capital sigma, which takes its final form at the end of a word; so the lower case of a part is not
always a part of the lower case of the whole.
-/

namespace TeacherRegistry.Text

/-- The lower-case form of one character, seen alone. Only the dotted capital I becomes two. -/
def lowerChar (c : Char) : List Char :=
  if c = '\u0130' then ['i', '\u0307']
  else match lowerRuns.findSome? (·.form? c.toNat) with
    | some n => [Char.ofNat n]
    | none => [c]

/-- Whether the first character that is not passed over is a cased one. -/
def startsCased (cs : List Char) : Bool :=
  match cs.dropWhile (inRanges caseIgnorableRanges) with
  | c :: _ => inRanges casedRanges c
  | [] => false

/-- Lower case of `rest`, which follows the characters of `before`, nearest first. -/
def lowerAfter (before : List Char) : List Char → List Char
  | [] => []
  | c :: rest =>
    let form :=
      if c = 'Σ' then if startsCased before && !startsCased rest then ['ς'] else ['σ']
      else lowerChar c
    form ++ lowerAfter (c :: before) rest

/-- The lower case of a text. -/
def lower (s : String) : String :=
  String.ofList (lowerAfter [] s.toList)

/-- Lower case of the letters `A` to `Z` alone. -/
def asciiLower (s : String) : String :=
  String.ofList (s.toList.map Char.toLower)

/-- Equality up to the case of the letters `A` to `Z`. -/
def equalIgnoringAsciiCase (s t : String) : Bool :=
  s.toList.map Char.toLower == t.toList.map Char.toLower

end TeacherRegistry.Text
