import TeacherRegistry.Config.VariableFile
import TeacherRegistry.Console.Transcript
import TeacherRegistry.Controller
import TeacherRegistry.Session

/-!
The probe of a server: it logs in, creates, edits and deletes one record, and checks after every
step that the list says so. The session of a probe is kept in memory, and the first thing that is
not as it should be ends the probe.
-/

namespace TeacherRegistry.Probe

open Console (Style Transcript)

/-- Why a probe failed. -/
inductive Fault where
  | config (e : Config.Error)
  | transport (e : TransportError)
  | session (e : Session.Error)
  | store (e : Store.Error)
  | controller (e : Controller.Error)
  /-- Something is not as it should be. -/
  | unexpected (finding : String)
deriving Repr, DecidableEq

def Fault.message : Fault → String
  | .config e => e.message
  | .transport e => e.message
  | .session e => e.message
  | .store e => e.message
  | .controller e => e.message
  | .unexpected finding => finding

/-- The identification number of the record that is created: ten digits of the clock. -/
def idNumber (stamp : Nat) : String :=
  let digits := Nat.toDigits 10 (stamp % tenTo 10)
  String.ofList (List.replicate (10 - digits.length) '0' ++ digits)

/-- The specialty that the record is created with. -/
def specialty : String := "Diagnóstico"

/-- The specialty that the record is given by the edit. -/
def editedSpecialty : String := "Diagnóstico (editado)"

/-- The controller and the world between the steps of a probe. -/
structure Progress where
  controller : Controller
  world : World

/-- A step of a probe, which goes on from where the last one ended. -/
abbrev Step (α : Type) := ExceptT Fault (StateM Progress) α

/-- Ends the probe unless a condition holds. -/
def expect (condition : Bool) (finding : String) : Step Unit :=
  if condition then pure () else throw (.unexpected finding)

/-- Prints a line. -/
def say (line : String) : Step Unit :=
  modify fun p => { p with world := p.world.print line }

/-- Does something in the world. -/
def inWorld {ε α : Type} (fault : ε → Fault) (act : World → Except ε α × World) : Step α := do
  let p ← get
  let (outcome, world) := act p.world
  set { p with world }
  ExceptT.mk (pure (outcome.mapError fault))

/-- Does something with the controller. -/
def atController {α : Type} (act : Controller → World → Controller.Effect α) : Step α := do
  let p ← get
  let effect := act p.controller p.world
  set (⟨effect.controller, effect.world⟩ : Progress)
  ExceptT.mk (pure (effect.result.mapError .controller))

/-- Changes the form. -/
def inForm (change : Controller → Controller) : Step Unit :=
  modify fun p => { p with controller := change p.controller }

/-- Looks at the controller. -/
def seen {α : Type} (view : Controller → α) : Step α := do
  return view (← get).controller

/-- Who logs in: an operator with a password, or else a guest. -/
def login (client : Client) (operator : Option (String × String)) : Step Json.Value :=
  match operator with
  | some (username, password) => inWorld .session (Session.login client username password)
  | none => inWorld .session (Session.loginAsGuest client)

/-- Creates the record and gives it as it is listed, with its identifier. -/
def create (client : Client) (number : String) : Step (Teacher × TeacherId) := do
  inForm Controller.toggleForm
  inForm fun c => c.updateField .idNumber number
  inForm fun c => c.updateField .name "Sonda Smoke Test"
  inForm fun c => c.updateField .email "smoke@edudata.local"
  inForm fun c => c.updateField .specialty specialty
  let outcome ← atController (Controller.submit client)
  expect (outcome == .created)
    "Condition failed: \x60docentes.submit().await? == SubmitOutcome::Created\x60"
  match ← seen fun c => c.collection.find? (·.idNumber == number) with
  | none => throw (.unexpected "created record missing from the reloaded list")
  | some created =>
    match created.id with
    | none => throw (.unexpected "server did not assign an id")
    | some id => return (created, id)

/-- Edits the record. -/
def edit (client : Client) (created : Teacher) (id : TeacherId) : Step Unit := do
  let p ← get
  let (controller, world) := p.controller.beginEdit created p.world
  set (⟨controller, world⟩ : Progress)
  inForm fun c => c.updateField .specialty editedSpecialty
  let outcome ← atController (Controller.submit client)
  expect (outcome == .updated)
    "Condition failed: \x60docentes.submit().await? == SubmitOutcome::Updated\x60"
  match ← seen fun c => c.find? id with
  | none => throw (.unexpected "edited record missing from the reloaded list")
  | some edited =>
    expect (edited.specialty == editedSpecialty)
      "Condition failed: \x60edited.especialidad == \"Diagnóstico (editado)\"\x60"

/-- Deletes the record; afterwards the list is as long as `before`. -/
def delete (client : Client) (id : TeacherId) (before : Nat) : Step Unit := do
  let outcome ← atController fun c w => c.delete client id w
  expect (outcome == .deleted)
    "Condition failed: \x60docentes.delete(&id).await? == DeleteOutcome::Deleted\x60"
  expect (← seen fun c => (c.find? id).isNone)
    "Condition failed: \x60docentes.find(&id).is_none()\x60"
  let after ← seen fun c => c.collection.length
  expect (after == before)
    ("Condition failed: \x60docentes.collection().len() == before\x60 (" ++ toString after ++ " vs "
      ++ toString before ++ ")")

/-- All steps of a probe. -/
def steps (client : Client) (operator : Option (String × String)) (stamp : Nat) : Step Unit := do
  let number := idNumber stamp
  say "\n[Test 1] Authenticating..."
  let profile ← login client operator
  expect (← inWorld .session (Session.validate client)) "fresh token was rejected"
  say ("✅ Logged in as " ++ profile.text)
  say "\n[Test 2] Loading the collection..."
  atController (Controller.load client)
  let before ← seen fun c => c.collection.length
  say ("✅ " ++ toString before ++ " teachers on the server")
  say "\n[Test 3] Creating a probe record..."
  let (created, id) ← create client number
  say ("✅ Created id " ++ id.display)
  say "\n[Test 4] Editing the probe record..."
  edit client created id
  say "✅ Edited"
  inForm fun c => c.setFilter number
  expect ((← seen fun c => c.filtered.length) == 1) "filter by identification"
  inForm fun c => c.setFilter ""
  say "\n[Test 6] Deleting the probe record..."
  delete client id before
  say "✅ Deleted"
  inWorld .store Session.logout
  expect (← get).world.journal.redirects.isEmpty "session expired during the run"
  say "\n--- All Tests Passed Successfully ---"

/-- The world that a probe starts in. -/
def startingWorld (farEnd : Http.FarEnd) : World :=
  { farEnd
    store := .memory []
    credentials := .stored
    confirmation := .always true
    expiry := .redirected
    spans := []
    journal := [] }

/-- Who logs in, according to the environment. -/
def operator? (environment : Config.Environment) : Option (String × String) :=
  match Dictionary.get? environment "EDUDATA_USERNAME",
      Dictionary.get? environment "EDUDATA_PASSWORD" with
  | some username, some password => some (username, password)
  | _, _ => none

/-- A probe with its settings. -/
def runSettled (config : Config) (environment : Config.Environment) (farEnd : Http.FarEnd)
    (stamp : Nat) : Except Fault Unit × World :=
  let w := (startingWorld farEnd).print
    ("--- Starting API Client Smoke Test ---\n" ++ config.display)
  match Client.ofConfig config with
  | .error e => (.error (.transport e), w)
  | .ok client =>
    let (outcome, progress) := (steps client (operator? environment) stamp).run ⟨.initial, w⟩
    (outcome, progress.world)

/-- The line that tells of a failure. -/
def failureLine (fault : Fault) : String :=
  "Error: " ++ fault.message ++ "\n"

/-- Runs a probe with the variables of all files set. -/
def runKnown (environment : Config.Environment) (farEnd : Http.FarEnd) (disk : Disk) (stamp : Nat) :
    Transcript :=
  match Config.load disk none environment with
  | .error e =>
    if e.isCrash then .crash disk else ⟨1, "", failureLine (.config e), [], [], disk⟩
  | .ok config =>
    let (outcome, w) := runSettled config environment farEnd stamp
    let display : Console.Display :=
      { coloured := Console.isColoured (Dictionary.get? environment "CLICOLOR_FORCE")
        plain := false
        interactive := false
        filter := .off }
    { exitCode := if outcome.isOk then 0 else 1
      output := display.output w.journal
      errors := display.errors w.journal ++ match outcome with
        | .ok () => ""
        | .error fault => failureLine fault
      logs := []
      requests := w.journal.requests
      disk }

/-- Runs a probe in an environment, with a disk, a far end and the time of day in seconds. -/
def run (environment : Config.Environment) (farEnd : Http.FarEnd) (disk : Disk) (stamp : Nat) :
    Transcript :=
  match Config.VariableFile.loadNearest disk [".env"] environment with
  | none => .crash disk
  | some environment =>
    if (Console.logFilter? (Dictionary.get? environment Console.filterVariable) .info).isSome then
      runKnown environment farEnd disk stamp
    else .crash disk

end TeacherRegistry.Probe
