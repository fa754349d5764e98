import TeacherRegistry.Console.Style
import TeacherRegistry.Disk
import TeacherRegistry.Journal
import TeacherRegistry.Log.Filter

/-!
What an operator sees of a run: the journal split into the two outputs, with the diagnostic events
that the filter admits.
-/

namespace TeacherRegistry.Console

/-- A diagnostic event as it is written out. -/
structure LogLine where
  level : String
  target : String
  fields : Dictionary Json.Value
  /-- The operations it happened in that the filter admits, outermost first. -/
  spans : List Json.Value

/-- How a journal is shown. -/
structure Display where
  coloured : Bool
  /-- Whether notices stay without colour. -/
  plain : Bool
  /-- Whether the operator is asked, and not taken to agree. -/
  interactive : Bool
  filter : Log.Filter

namespace Display

/-- A notice in the colour of its tone. -/
def noticeText (display : Display) (style : Style) (text : String) : String :=
  (if display.plain then text else style.render display.coloured text) ++ "\n"

/-- A question, with the answers that may be given. -/
def promptText (display : Display) (prompt : String) : String :=
  Style.bold.render display.coloured prompt ++ " [s/N] "

/-- How the operator is told to log in again. -/
def hintText (display : Display) (loginRoute : String) : String :=
  Style.boldYellow.render display.coloured "La sesión expiró." ++ " "
    ++ Style.yellow.render display.coloured
      ("Inicie sesión de nuevo con \x60docentes login\x60 (" ++ loginRoute ++ ").") ++ "\n"

/-- What an entry puts on the standard output. -/
def outputText (display : Display) : Entry → String
  | .printed line => line ++ "\n"
  | .notice .success text => display.noticeText .brightGreen text
  | .asked prompt _ => if display.interactive then display.promptText prompt else ""
  | _ => ""

/-- What an entry puts on the standard error output. -/
def errorText (display : Display) : Entry → String
  | .notice .failure text => display.noticeText .brightRed text
  | .hinted loginRoute => display.hintText loginRoute
  | _ => ""

/-- The standard output of a run. -/
def output (display : Display) (journal : Journal) : String :=
  String.join (journal.map display.outputText)

/-- The standard error output of a run. -/
def errors (display : Display) (journal : Journal) : String :=
  String.join (journal.map display.errorText)

/-- The diagnostic events of a run that the filter admits. -/
def logLines (display : Display) (journal : Journal) : List LogLine :=
  journal.events.filterMap fun (event, spans) =>
    (display.filter.admit? event spans).map fun shown =>
      { level := event.level.label
        target := event.target
        fields := event.fields
        spans := shown.map Log.Span.value }

end Display

/-- The variable that sets the filter of diagnostic events. -/
def filterVariable : String := "RUST_LOG"

/-- The filter of diagnostic events: the one that is set if it is well-formed. It is `none` if the
setting breaks the run off. -/
def logFilter? (setting : Option String) (default : Log.Level) : Option Log.Filter :=
  match setting.map Log.Filter.ofString with
  | some (.ok filter) => some filter
  | some (.error .cutCharacter) => none
  | some (.error .malformed) | none => some (.upTo default)

/-- All that can be seen of a run. -/
structure Transcript where
  exitCode : Nat
  output : String
  errors : String
  logs : List LogLine
  requests : List Http.Request
  disk : Disk

/-- The exit code of a run that breaks off. -/
def crashCode : Nat := 101

/-- All that can be seen of a run that breaks off before it has done anything. -/
def Transcript.crash (disk : Disk) : Transcript :=
  ⟨crashCode, "", "", [], [], disk⟩

end TeacherRegistry.Console
