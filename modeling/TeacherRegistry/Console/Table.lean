import TeacherRegistry.Console.Style
import TeacherRegistry.Teacher.Basic

/-!
The table of records: a line of headings, then a line for each record, in columns.
-/

namespace TeacherRegistry.Console

/-- The headings with the widths of their columns; the last column ends with its text. -/
def columns : List (String × Nat) :=
  [("ID", 8), ("Identif.", 12), ("Nombre", 28), ("Email", 30), ("Especialidad", 0)]

/-- The cells of a record. -/
def cells (t : Teacher) : List String :=
  [t.id.elim "" TeacherId.display, t.idNumber, t.name, t.email, t.specialty]

/-- The line of a record. -/
def row (t : Teacher) : String :=
  " ".intercalate ((cells t).zipWith (fun cell column =>
    String.ofList (Style.padEnd column.2 cell.toList)) columns)

/-- The line of headings. -/
def heading (coloured : Bool) : String :=
  " ".intercalate (columns.map fun column => Style.bold.renderWide coloured column.2 column.1)

/-- The lines that show records. -/
def table (coloured : Bool) : List Teacher → List String
  | [] => [Style.dimmed.render coloured "No se encontraron docentes"]
  | teachers => heading coloured :: teachers.map row

end TeacherRegistry.Console
