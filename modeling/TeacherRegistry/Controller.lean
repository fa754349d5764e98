import TeacherRegistry.Client.Basic
import TeacherRegistry.Teacher.Json

/-!
The controller of the registry's one screen: the records as the server last listed them, the record
in the form, and the search term. Records are changed on the server only; after every change that
the server accepted the list is read anew. Every outcome is told to the operator once.
-/

namespace TeacherRegistry

structure Controller where
  /-- The records in the order of the server. -/
  collection : List Teacher
  /-- The record in the form. -/
  draft : Teacher
  /-- Whether the draft is a record that the server knows. -/
  editing : Bool
  formVisible : Bool
  filter : String
deriving Repr, DecidableEq

namespace Controller

inductive Error where
  | transport (e : TransportError)
  /-- The draft may not be sent. -/
  | invalid (fault : Teacher.Fault)
  | unknownField (name : String)
  /-- No record with this identifier has been listed. -/
  | notFound (id : String)
deriving Repr, DecidableEq

def Error.message : Error → String
  | .transport e => e.message
  | .invalid fault => fault.message
  | .unknownField name => "Unknown field: " ++ name
  | .notFound id => "No record with id " ++ id ++ " in the loaded collection"

/-- What saving the draft did. -/
inductive SaveOutcome where
  | created
  | updated
deriving Repr, DecidableEq

/-- What a deletion did. -/
inductive DeleteOutcome where
  | deleted
  /-- The operator said no, and nothing was sent. -/
  | declined
deriving Repr, DecidableEq

/-- The path of the list of records. -/
def listPath : String := "/docentes"

/-- The path of one record. -/
def itemPath (id : TeacherId) : String :=
  listPath ++ "/" ++ id.display

/-- The question in front of every deletion. -/
def deleteQuestion : String := "¿Está seguro de eliminar este docente?"

def loadFailure : String := "Error al cargar docentes"
def saveFailure : String := "Error al guardar el docente"
def deleteFailure : String := "Error al eliminar el docente"
def deleteSuccess : String := "Docente eliminado correctamente"

/-- What the operator is told of a saved draft. -/
def SaveOutcome.notice : SaveOutcome → String
  | .created => "Docente registrado correctamente"
  | .updated => "Docente actualizado correctamente"

/-- The name of an outcome in diagnostic events. -/
def SaveOutcome.label : SaveOutcome → String
  | .created => "Created"
  | .updated => "Updated"

/-- The controller before anything has happened. -/
def initial : Controller := ⟨[], .empty, false, false, ""⟩

/-- The first listed record with an identifier. -/
def find? (c : Controller) (id : TeacherId) : Option Teacher :=
  c.collection.find? fun teacher => teacher.id == some id

/-- The listed records that the search term finds, in the order of the server. -/
def filtered (c : Controller) : List Teacher :=
  c.collection.filter fun teacher => teacher.isFoundBy c.filter

/-- Tells the operator of a failure. -/
def notifyFailure (w : World) (failure reason : String) : World :=
  w.notify .failure (failure ++ ": " ++ reason)

/-- The records that the bytes of a list hold. -/
def decodeList? (bytes : ByteArray) : Option (List Teacher) :=
  Json.Document.ofBytes? bytes >>= Teacher.listOfDocument?

/-- Reads the list from the server. -/
def fetch (client : Client) (w : World) : Except TransportError (List Teacher) × World :=
  match client.request decodeList? "GET" listPath none w with
  | (.error e, w) => (.error e, w)
  | (.ok answer, w) =>
    match answer.data with
    | some teachers => (.ok teachers, w)
    | none => (.error (.decode "expected a JSON array, got no JSON body"), w)

/-- What an operation came to, with the controller and the world after it. -/
structure Effect (α : Type) where
  result : Except Error α
  controller : Controller
  world : World

/-- Does something as part of an operation. -/
def within {α : Type} (span : Log.Span) (act : World → Effect α) (w : World) : Effect α :=
  let effect := act (w.enter span)
  { effect with world := effect.world.leave }

/-- Takes over the list of the server. -/
def refresh (client : Client) (c : Controller) (w : World) : Effect Unit :=
  match fetch client w with
  | (.ok teachers, w) =>
    ⟨.ok (), { c with collection := teachers }, w.log (.collectionLoaded teachers.length)⟩
  | (.error e, w) => ⟨.error (.transport e), c, notifyFailure w loadFailure e.message⟩

/-- Replaces the collection by the list of the server. -/
def load (client : Client) (c : Controller) (w : World) : Effect Unit :=
  within .load (refresh client c) w

/-- Empties the form and closes it. -/
def reset (c : Controller) : Controller :=
  { c with draft := .empty, editing := false, formVisible := false }

/-- How the draft is to be sent: whether it is new or known, the method and the path. -/
def plan (c : Controller) : Except Teacher.Fault (SaveOutcome × String × String) :=
  match c.draft.fault?, c.editing, c.draft.id with
  | some fault, _, _ => .error fault
  | none, false, _ => .ok (.created, "POST", listPath)
  | none, true, none => .error .missingId
  | none, true, some id => .ok (.updated, "PUT", itemPath id)

/-- Reads the list again after a change, and reports if that fails. -/
def reload (client : Client) (failed : Log.Event) (c : Controller) (w : World) :
    Controller × World :=
  match load client c w with
  | ⟨.ok (), c, w⟩ => (c, w)
  | ⟨.error _, c, w⟩ => (c, w.log failed)

/-- Sends the draft as planned. -/
def save (client : Client) (c : Controller) (w : World) : Effect SaveOutcome :=
  match c.plan with
  | .error fault => ⟨.error (.invalid fault), c, notifyFailure w saveFailure fault.message⟩
  | .ok (outcome, method, path) =>
    match client.request Json.Value.ofBytes? method path (some c.draft.json) w with
    | (.error e, w) => ⟨.error (.transport e), c, notifyFailure w saveFailure e.message⟩
    | (.ok _, w) =>
      let w := (w.log (.draftSaved outcome.label)).notify .success outcome.notice
      let (c, w) := reload client .reloadFailedAfterSave c.reset w
      ⟨.ok outcome, c, w⟩

/-- Sends the draft. If it is accepted the form is closed and the list read again. -/
def submit (client : Client) (c : Controller) (w : World) : Effect SaveOutcome :=
  within (.submit c.editing) (save client c) w

/-- Deletes a record if the operator agrees. -/
def eraseIfConfirmed (client : Client) (c : Controller) (id : TeacherId) (w : World) :
    Effect DeleteOutcome :=
  match w.ask deleteQuestion with
  | (false, w) => ⟨.ok .declined, c, w.log .deleteDeclined⟩
  | (true, w) =>
    match client.request Json.Value.ofBytes? "DELETE" (itemPath id) none w with
    | (.error e, w) => ⟨.error (.transport e), c, notifyFailure w deleteFailure e.message⟩
    | (.ok _, w) =>
      let w := (w.log .recordDeleted).notify .success deleteSuccess
      let (c, w) := reload client .reloadFailedAfterDelete c w
      ⟨.ok .deleted, c, w⟩

/-- Deletes a record if the operator agrees, and reads the list again. -/
def delete (client : Client) (c : Controller) (id : TeacherId) (w : World) :
    Effect DeleteOutcome :=
  within (.delete id.display) (eraseIfConfirmed client c id) w

/-- How an identifier is shown in diagnostic events. -/
def idText : Option TeacherId → String
  | none => "None"
  | some (.number n) => "Some(Number(" ++ toString n.toInt ++ "))"
  | some (.text s) => "Some(Text(" ++ Text.quoted s ++ "))"

/-- Puts a record into the form to be edited. -/
def beginEdit (c : Controller) (teacher : Teacher) (w : World) : Controller × World :=
  ({ c with draft := teacher, editing := true, formVisible := true },
    w.log (.editBegun (idText teacher.id)))

/-- Puts a listed record into the form to be edited. -/
def beginEditById (c : Controller) (id : TeacherId) (w : World) : Effect Unit :=
  match c.find? id with
  | some teacher =>
    let (c, w) := c.beginEdit teacher w
    ⟨.ok (), c, w⟩
  | none => ⟨.error (.notFound id.display), c, w⟩

/-- Opens the form for a new record, or closes it and drops what is in it. -/
def toggleForm (c : Controller) : Controller :=
  if c.formVisible then c.reset else { c with formVisible := true }

/-- Types a text into a field of the form. -/
def updateField (c : Controller) (field : Teacher.Field) (value : String) : Controller :=
  { c with draft := c.draft.set field value }

/-- Types a text into the field with a given name. -/
def updateFieldByName (c : Controller) (name value : String) : Except Error Controller :=
  match Teacher.Field.ofString? name with
  | some field => .ok (c.updateField field value)
  | none => .error (.unknownField name)

/-- Sets the search term; the empty term finds every record. -/
def setFilter (c : Controller) (term : String) : Controller :=
  { c with filter := term }

end Controller

end TeacherRegistry
