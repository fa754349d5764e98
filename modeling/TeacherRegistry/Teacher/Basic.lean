import TeacherRegistry.Text.Blank
import TeacherRegistry.Text.Integer
import TeacherRegistry.Text.LowerCase
import TeacherRegistry.Text.Substring

/-!
Teacher records: who a teacher is, the rule for typing an identification number, the checks a record
has to pass before it is sent, and the search by a term.
-/

namespace TeacherRegistry

/-- The identifier that the server assigns to a record. -/
inductive TeacherId where
  | number (n : Int64)
  | text (s : String)
deriving Repr, DecidableEq

/-- A record of the registry. A record that the server has not seen has no identifier. -/
structure Teacher where
  id : Option TeacherId
  /-- The national identification number. -/
  idNumber : String
  name : String
  email : String
  specialty : String
deriving Repr, DecidableEq

namespace TeacherId

/-- The identifier that a text stands for: a number if it reads as one. -/
def ofString (s : String) : TeacherId :=
  let s := Text.trim s
  match Text.int64? s with
  | some n => .number n
  | none => .text s

/-- The text of an identifier. -/
def display : TeacherId → String
  | .number n => toString n.toInt
  | .text s => s

end TeacherId

namespace Teacher

/-- The record with nothing filled in. -/
def empty : Teacher := ⟨none, "", "", "", ""⟩

/-- The parts of a record that are typed in. -/
inductive Field where
  | idNumber
  | name
  | email
  | specialty
deriving Repr, DecidableEq

namespace Field

/-- The fields in the order in which they are shown. -/
def all : List Field := [.idNumber, .name, .email, .specialty]

/-- The name of a field on the wire and on the command line. -/
def label : Field → String
  | .idNumber => "identificacion"
  | .name => "nombre"
  | .email => "email"
  | .specialty => "especialidad"

/-- The field with a given name, blanks around it and the case of ASCII letters apart. -/
def ofString? (s : String) : Option Field :=
  let s := Text.trim s
  all.find? fun field => Text.equalIgnoringAsciiCase field.label s

end Field

/-- The greatest number of digits of an identification number. -/
def idNumberLimit : Nat := 10

/-- What is kept of a text typed as an identification number: its first ASCII digits. -/
def cleanIdNumber (s : String) : String :=
  String.ofList ((s.toList.filter Char.isDigit).take idNumberLimit)

/-- The content of a field. -/
def get (t : Teacher) : Field → String
  | .idNumber => t.idNumber
  | .name => t.name
  | .email => t.email
  | .specialty => t.specialty

/-- Types a text into a field. -/
def set (t : Teacher) (field : Field) (value : String) : Teacher :=
  match field with
  | .idNumber => { t with idNumber := cleanIdNumber value }
  | .name => { t with name := value }
  | .email => { t with email := value }
  | .specialty => { t with specialty := value }

/-- Whether a record is found by a search term. The number is compared as typed, name and email in
lower case; every record is found by the empty term. -/
def isFoundBy (t : Teacher) (term : String) : Bool :=
  term.isEmpty
    || Text.contains (Text.lower t.name) (Text.lower term)
    || Text.contains t.idNumber term
    || Text.contains (Text.lower t.email) (Text.lower term)

/-- What keeps a record from being sent. -/
inductive Fault where
  | missingIdNumber
  | malformedIdNumber
  | missingName
  | missingEmail
  | malformedEmail
  | missingSpecialty
  /-- A record under edit that has no identifier to send it under. -/
  | missingId
deriving Repr, DecidableEq

def Fault.message : Fault → String
  | .missingIdNumber => "La identificación es obligatoria"
  | .malformedIdNumber => "Solo se permiten números, máximo 10 dígitos"
  | .missingName => "El nombre es obligatorio"
  | .missingEmail => "El correo electrónico es obligatorio"
  | .malformedEmail => "El correo electrónico no es válido"
  | .missingSpecialty => "La especialidad es obligatoria"
  | .missingId => "el registro en edición no tiene identificador"

/-- Whether a text is an identification number or the empty text. -/
def isIdNumber (s : String) : Bool :=
  s.toList.length ≤ idNumberLimit && s.toList.all Char.isDigit

/-- Whether the check of an identification number lets a text through. It counts bytes, of which a
digit takes one. -/
def passesAsIdNumber (s : String) : Bool :=
  s.utf8ByteSize ≤ idNumberLimit && s.toList.all Char.isDigit

/-- The first fault among the typed fields of a record. -/
def fault? (t : Teacher) : Option Fault :=
  if t.idNumber = "" then some .missingIdNumber
  else if !passesAsIdNumber t.idNumber then some .malformedIdNumber
  else if Text.isBlank t.name then some .missingName
  else if Text.isBlank t.email then some .missingEmail
  else if !t.email.toList.contains '@' then some .malformedEmail
  else if Text.isBlank t.specialty then some .missingSpecialty
  else none

theorem get_set_of_ne (t : Teacher) {field other : Field} (value : String) (h : other ≠ field) :
    (t.set field value).get other = t.get other := by
  cases field <;> cases other <;> simp_all [set, get]

@[simp] theorem id_set (t : Teacher) (field : Field) (value : String) :
    (t.set field value).id = t.id := by
  cases field <;> rfl

theorem isIdNumber_cleanIdNumber (s : String) : isIdNumber (cleanIdNumber s) = true := by
  have digits : ∀ c ∈ (s.toList.filter Char.isDigit).take idNumberLimit, c.isDigit = true :=
    fun c member => (List.mem_filter.mp (List.mem_of_mem_take member)).2
  simp only [isIdNumber, cleanIdNumber, String.toList_ofList, List.length_take,
    Bool.and_eq_true, decide_eq_true_eq, List.all_eq_true]
  exact ⟨Nat.min_le_left .., digits⟩

end Teacher

end TeacherRegistry
