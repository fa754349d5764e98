import TeacherRegistry.Json.Printer
import TeacherRegistry.Teacher.Json

/-!
Shapes of answers: what a caller expects in the body of a response, and the text of it when it is
read and written again.
-/

namespace TeacherRegistry

open Json (Document)

inductive Shape where
  /-- Any JSON. -/
  | value
  | teacher
  | teachers
  /-- Whole numbers from 0 up to the largest of 32 bits. -/
  | numbers
  | id
deriving Repr, DecidableEq

namespace Shape

/-- Items between brackets. -/
def listChars (items : List (List Char)) : List Char :=
  '[' :: [','].intercalate items ++ [']']

/-- The number that a document holds, if it fits 32 bits. -/
def number? : Document → Option Int
  | .numeral n => n.integer?.filter fun i => 0 ≤ i ∧ i < UInt32.size
  | _ => none

/-- The text of what a document holds, if it has the shape. -/
def chars? : Shape → Document → Option (List Char)
  | .value, d => d.value?.map Json.Value.chars
  | .teacher, d => (Teacher.ofDocument? d).map Teacher.jsonChars
  | .teachers, d => (Teacher.listOfDocument? d).map fun teachers =>
      listChars (teachers.map Teacher.jsonChars)
  | .numbers, .array items => (items.mapM number?).map fun numbers =>
      listChars (numbers.map Json.integerText)
  | .numbers, _ => none
  | .id, d => (TeacherId.ofDocument? d).map TeacherId.jsonChars

/-- Reads bytes of this shape. -/
def decode? (shape : Shape) (bytes : ByteArray) : Option String :=
  ((Document.ofBytes? bytes).bind shape.chars?).map String.ofList

end Shape

end TeacherRegistry
