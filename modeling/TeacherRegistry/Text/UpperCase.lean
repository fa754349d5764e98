import TeacherRegistry.Text.UpperCase.Table

/-!
Upper case. The upper-case form of a character does not depend on what surrounds it, so the upper
case of a text is made of those of its parts; it may have more characters and fewer bytes than the
text.
-/

namespace TeacherRegistry.Text

/-- The upper-case form of one character. -/
def upperChar (c : Char) : List Char :=
  match upperExpansions.lookup c.toNat with
  | some form => form.map Char.ofNat
  | none => [((upperRuns.findSome? (·.form? c.toNat)).map Char.ofNat).getD c]

/-- The upper case of a text. -/
def upper (s : String) : String :=
  String.ofList (s.toList.flatMap upperChar)

/-- A text with its first character in upper case. -/
def capitalized (s : String) : String :=
  match s.toList with
  | [] => ""
  | c :: rest => String.ofList (upperChar c ++ rest)

end TeacherRegistry.Text
