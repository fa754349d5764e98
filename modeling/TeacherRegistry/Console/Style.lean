/-!
Styles of terminal text. A styled text stands between escape sequences; when styles are off it is
the text itself. A style that is nested in another takes it up again at its end.
-/

namespace TeacherRegistry.Console

/-- The codes of a style: weight first, then colour. -/
inductive Style where
  | bold
  | dimmed
  | green
  | yellow
  | brightGreen
  | brightRed
  | boldGreen
  | boldYellow
  | boldBrightRed
deriving Repr, DecidableEq

namespace Style

def codes : Style → String
  | .bold => "1"
  | .dimmed => "2"
  | .green => "32"
  | .yellow => "33"
  | .brightGreen => "92"
  | .brightRed => "91"
  | .boldGreen => "1;32"
  | .boldYellow => "1;33"
  | .boldBrightRed => "1;91"

/-- The sequence that ends every style. -/
def ending : List Char := "\x1b[0m".toList

/-- The sequence that begins a style. -/
def opening (style : Style) : List Char :=
  '\x1b' :: '[' :: style.codes.toList ++ ['m']

/-- Takes a style up again after every end of an inner one. -/
def resume (style : Style) : List Char → List Char
  | [] => []
  | '\x1b' :: '[' :: '0' :: 'm' :: rest => ending ++ style.opening ++ resume style rest
  | c :: rest => c :: resume style rest

/-- Fills a text up with blanks at its end. -/
def padEnd (width : Nat) (cs : List Char) : List Char :=
  cs ++ List.replicate (width - cs.length) ' '

/-- A text in a style, at least `width` characters wide. -/
def renderWide (style : Style) (coloured : Bool) (width : Nat) (text : String) : String :=
  if coloured then
    String.ofList (style.opening ++ padEnd width (style.resume text.toList) ++ ending)
  else String.ofList (padEnd width text.toList)

/-- A text in a style. -/
def render (style : Style) (coloured : Bool) (text : String) : String :=
  style.renderWide coloured 0 text

end Style

/-- Whether styles are on, when the output is no terminal: the variable that forces them is set, to
anything but 0. -/
def isColoured (force : Option String) : Bool :=
  force.any (· != "0")

end TeacherRegistry.Console
