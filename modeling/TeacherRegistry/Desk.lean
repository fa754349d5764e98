import TeacherRegistry.Client.Shape
import TeacherRegistry.Controller
import TeacherRegistry.Session

/-!
A desk: one client, with the session and the controller that share it. Everything an operator can do
at a desk is an action; a run takes one step after the other, and what the far end does may be another
thing at every step.
-/

namespace TeacherRegistry

structure Desk where
  client : Client
  controller : Controller
  world : World

namespace Desk

inductive Action where
  | load
  | submit
  | delete (id : TeacherId)
  | beginEdit (teacher : Teacher)
  | beginEditById (id : TeacherId)
  | find (id : TeacherId)
  | reset
  | toggleForm
  | updateField (field : Teacher.Field) (value : String)
  | updateFieldByName (name value : String)
  | setFilter (term : String)
  | clearFilter
  | login (username password : String)
  | loginAsGuest
  | validate
  | logout
  | isLoggedIn
  | user
  | storeGet (key : String)
  | storeSet (key value : String)
  | storeRemove (key : String)
  | token
  | evict
  | request (method path : String) (body : Option String) (shape : Shape)
deriving Repr, DecidableEq

/-- What an action gives. -/
inductive Report where
  | done
  | saved (outcome : Controller.SaveOutcome)
  | deleted (outcome : Controller.DeleteOutcome)
  | record (teacher : Option Teacher)
  | truth (b : Bool)
  | text (s : Option String)
  | answer (answer : Answer String)

inductive Failure where
  | controller (e : Controller.Error)
  | session (e : Session.Error)
  | store (e : Store.Error)
  | transport (e : TransportError)
deriving Repr, DecidableEq

/-- The desk before anything has happened at it. -/
def initial (client : Client) (world : World) : Desk := ⟨client, .initial, world⟩

/-- An effect on the controller as an effect on the desk. -/
def ofEffect {α : Type} (desk : Desk) (effect : Controller.Effect α) (report : α → Report) :
    Except Failure Report × Desk :=
  ((effect.result.map report).mapError .controller,
    { desk with controller := effect.controller, world := effect.world })

/-- A change of the world that says nothing about the controller. -/
def ofWorld {ε α : Type} (desk : Desk) (outcome : Except ε α × World)
    (failure : ε → Failure) (report : α → Report) : Except Failure Report × Desk :=
  ((outcome.1.map report).mapError failure, { desk with world := outcome.2 })

section

variable {ε α : Type} (desk : Desk) (effect : Controller.Effect α) (report : α → Report)
  (outcome : Except ε α × World) (failure : ε → Failure)

theorem controller_ofEffect :
    (desk.ofEffect effect report).2.controller = effect.controller := rfl

theorem world_ofEffect : (desk.ofEffect effect report).2.world = effect.world := rfl

theorem controller_ofWorld :
    (desk.ofWorld outcome failure report).2.controller = desk.controller := rfl

theorem world_ofWorld : (desk.ofWorld outcome failure report).2.world = outcome.2 := rfl

end

/-- Does an action. -/
def act (desk : Desk) : Action → Except Failure Report × Desk
  | .load => desk.ofEffect (desk.controller.load desk.client desk.world) fun _ => .done
  | .submit => desk.ofEffect (desk.controller.submit desk.client desk.world) .saved
  | .delete id => desk.ofEffect (desk.controller.delete desk.client id desk.world) .deleted
  | .beginEdit teacher =>
    let (controller, world) := desk.controller.beginEdit teacher desk.world
    (.ok .done, { desk with controller, world })
  | .beginEditById id => desk.ofEffect (desk.controller.beginEditById id desk.world) fun _ => .done
  | .find id => (.ok (.record (desk.controller.find? id)), desk)
  | .reset => (.ok .done, { desk with controller := desk.controller.reset })
  | .toggleForm => (.ok .done, { desk with controller := desk.controller.toggleForm })
  | .updateField field value =>
    (.ok .done, { desk with controller := desk.controller.updateField field value })
  | .updateFieldByName name value =>
    match desk.controller.updateFieldByName name value with
    | .ok controller => (.ok .done, { desk with controller })
    | .error e => (.error (.controller e), desk)
  | .setFilter term => (.ok .done, { desk with controller := desk.controller.setFilter term })
  | .clearFilter => (.ok .done, { desk with controller := desk.controller.setFilter "" })
  | .login username password =>
    desk.ofWorld (Session.login desk.client username password desk.world) .session
      fun profile => .text (some profile.text)
  | .loginAsGuest =>
    desk.ofWorld (Session.loginAsGuest desk.client desk.world) .session
      fun profile => .text (some profile.text)
  | .validate => desk.ofWorld (Session.validate desk.client desk.world) .session .truth
  | .logout => desk.ofWorld (Session.logout desk.world) .store fun _ => .done
  | .isLoggedIn => desk.ofWorld (Session.isLoggedIn desk.world.store, desk.world) .store .truth
  | .user =>
    desk.ofWorld (Session.user desk.world.store, desk.world) .store
      fun profile => .text (profile.map Json.Value.text)
  | .storeGet key => desk.ofWorld (desk.world.store.get? key, desk.world) .store .text
  | .storeSet key value => desk.ofWorld (desk.world.put key value) .store fun _ => .done
  | .storeRemove key => desk.ofWorld (desk.world.remove key) .store fun _ => .done
  | .token =>
    let (token, world) := desk.world.token
    (.ok (.text token), { desk with world })
  | .evict => (.ok .done, { desk with world := desk.world.evict })
  | .request method path body shape =>
    desk.ofWorld (desk.client.request shape.decode? method path body desk.world) .transport .answer

/-- An action, and how the far end is while it lasts. -/
structure Step where
  farEnd : Http.FarEnd
  action : Action

/-- Takes a step. -/
def take (desk : Desk) (step : Step) : Except Failure Report × Desk :=
  { desk with world := { desk.world with farEnd := step.farEnd } }.act step.action

/-- Takes steps in turn. -/
def run (desk : Desk) (steps : List Step) : Desk :=
  steps.foldl (fun desk step => (desk.take step).2) desk

end Desk

end TeacherRegistry
