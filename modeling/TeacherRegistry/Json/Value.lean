import TeacherRegistry.Dictionary
import TeacherRegistry.Json.Document
import TeacherRegistry.Json.RawText

/-!
JSON values: what a document means when all of it is asked for. An object is a dictionary, so the
order of members is forgotten and of a repeated name the last value counts.
-/

namespace TeacherRegistry.Json

inductive Value where
  | null
  | bool (b : Bool)
  | number (n : Number)
  | string (s : String)
  | array (items : List Value)
  | object (members : List (String × Value))
deriving Repr

/-- The greatest number of containers that may stand inside one another in a value. -/
def depthLimit : Nat := 127

mutual

/-- The value of a document in which at most `room` containers stand inside one another. -/
def Document.valueWithin? (room : Nat) : Document → Option Value
  | .null => some .null
  | .bool b => some (.bool b)
  | .numeral n => n.number?.map .number
  | .text units => units.string?.map .string
  | .array items =>
    match room with
    | 0 => none
    | room + 1 => (Document.valuesWithin? room items).map .array
  | .object members =>
    match room with
    | 0 => none
    | room + 1 => (Document.membersWithin? room members).map fun entries =>
        .object (Dictionary.ofList entries)

def Document.valuesWithin? (room : Nat) : List Document → Option (List Value)
  | [] => some []
  | item :: rest => do
    return (← item.valueWithin? room) :: (← Document.valuesWithin? room rest)

def Document.membersWithin? (room : Nat) :
    List (RawText × Document) → Option (List (String × Value))
  | [] => some []
  | (name, item) :: rest => do
    return (← name.string?, ← item.valueWithin? room) :: (← Document.membersWithin? room rest)

end

/-- The value of a document, `none` if a text or number in it denotes nothing or it is too deep. -/
def Document.value? (d : Document) : Option Value :=
  d.valueWithin? depthLimit

namespace Value

/-- The value a text holds. -/
def ofString? (s : String) : Option Value :=
  Document.ofString? s >>= Document.value?

/-- The value that bytes hold. -/
def ofBytes? (bytes : ByteArray) : Option Value :=
  Document.ofBytes? bytes >>= Document.value?

/-- The member of an object under a name. -/
def member? (name : String) : Value → Option Value
  | .object members => Dictionary.get? members name
  | _ => none

/-- The text, if the value is one. -/
def string? : Value → Option String
  | .string s => some s
  | _ => none

/-- An object with the given members. -/
def ofMembers (members : List (String × Value)) : Value :=
  .object (Dictionary.ofList members)

end Value

end TeacherRegistry.Json
