import TeacherRegistry.Text.CharRange

/-!
Blank characters and trimming. A text is blank when nothing but white space is in it; the settings,
the session and the record checks all treat a blank text as an absent one.
-/

namespace TeacherRegistry.Text

/-- The property `White_Space` of the Unicode character database. -/
def blankRanges : List (Nat × Nat) :=
  [(0x09, 0x0D), (0x20, 0x20), (0x85, 0x85), (0xA0, 0xA0), (0x1680, 0x1680), (0x2000, 0x200A),
   (0x2028, 0x2029), (0x202F, 0x202F), (0x205F, 0x205F), (0x3000, 0x3000)]

def isBlankChar (c : Char) : Bool :=
  inRanges blankRanges c

/-- Whether a text holds nothing but white space. -/
def isBlank (s : String) : Bool :=
  s.toList.all isBlankChar

/-- Drops the characters that satisfy `p` from both ends. -/
def trimBoth (p : Char → Bool) (cs : List Char) : List Char :=
  ((cs.dropWhile p).reverse.dropWhile p).reverse

/-- Drops the characters that satisfy `p` from the end. -/
def trimEndOf (p : Char → Bool) (cs : List Char) : List Char :=
  (cs.reverse.dropWhile p).reverse

/-- Drops white space from both ends. -/
def trim (s : String) : String :=
  String.ofList (trimBoth isBlankChar s.toList)

end TeacherRegistry.Text
