import TeacherRegistry.Json.Printer
import TeacherRegistry.Teacher.Basic

/-!
Teacher records as JSON. A record is written as an object with its members in a fixed order, without
the identifier if it has none. It is read from an object with members in any order, of which unknown
ones are passed over, or from an array of its parts; a part that is missing or null is empty.
-/

namespace TeacherRegistry

open Json (Document RawText)

/-- The JSON text of an identifier. -/
def TeacherId.jsonChars : TeacherId → List Char
  | .number n => Json.integerText n.toInt
  | .text s => Json.quotedText s

/-- The identifier that a document holds. -/
def TeacherId.ofDocument? : Document → Option TeacherId
  | .numeral n =>
    let whole? := n.integer?.filter fun i => -Text.int64Bound ≤ i ∧ i < Text.int64Bound
    whole?.map fun i => .number (Int64.ofInt i)
  | .text units => units.string?.map .text
  | _ => none

namespace Teacher

/-- The name of the identifier on the wire. -/
def idLabel : String := "id"

/-- One member of the written record. -/
def memberChars (label : String) (value : List Char) : List Char :=
  Json.quotedText label ++ ':' :: value

/-- The JSON text of a record. -/
def jsonChars (t : Teacher) : List Char :=
  let fields := Field.all.map fun field => memberChars field.label (Json.quotedText (t.get field))
  let members := match t.id with
    | none => fields
    | some id => memberChars idLabel id.jsonChars :: fields
  '\x7b' :: [','].intercalate members ++ ['\x7d']

/-- The JSON text of a record. -/
def json (t : Teacher) : String :=
  String.ofList t.jsonChars

/-- The identifier that a part of a record holds, if it is there and not null. -/
def readId? : Option Document → Option (Option TeacherId)
  | none | some .null => some none
  | some d => (TeacherId.ofDocument? d).map some

/-- The text that a part of a record holds, empty if it is missing or null. -/
def readText? : Option Document → Option String
  | none | some .null => some ""
  | some (.text units) => units.string?
  | some _ => none

/-- Puts a record together from its parts. -/
def ofParts? (id idNumber name email specialty : Option Document) : Option Teacher := do
  return { id := ← readId? id, idNumber := ← readText? idNumber, name := ← readText? name,
           email := ← readText? email, specialty := ← readText? specialty }

/-- The names of the members that are read. -/
def labels : List String := idLabel :: Field.all.map Field.label

/-- The members of an object with their names read, `none` if a name is unreadable. -/
def named? : List (RawText × Document) → Option (List (String × Document))
  | [] => some []
  | (name, d) :: rest => do return (← name.string?, d) :: (← named? rest)

/-- The record written by the members of an object. A known name may stand there only once. -/
def ofMembers? (members : List (String × Document)) : Option Teacher :=
  if labels.all fun label => (members.filter fun member => member.1 = label).length ≤ 1 then
    let part (field : Field) := members.lookup field.label
    ofParts? (members.lookup idLabel) (part .idNumber) (part .name) (part .email) (part .specialty)
  else none

/-- The record that a document holds. -/
def ofDocument? : Document → Option Teacher
  | .object members => named? members >>= ofMembers?
  | .array items =>
    if items.length ≤ labels.length then
      ofParts? items[0]? items[1]? items[2]? items[3]? items[4]?
    else none
  | _ => none

/-- The records that a list holds; one that cannot be read spoils the list. -/
def listOfDocument? : Document → Option (List Teacher)
  | .array items => items.mapM ofDocument?
  | _ => none

/-- The record that a text holds. -/
def ofString? (s : String) : Option Teacher :=
  Document.ofString? s >>= ofDocument?

end Teacher

end TeacherRegistry
