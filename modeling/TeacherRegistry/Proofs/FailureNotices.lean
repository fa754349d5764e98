import TeacherRegistry.Proofs.ConfirmedDeletions
import TeacherRegistry.Proofs.FailedOperations

/-!
# What the operator hears of a failure

An operation that reads the list, saves the draft or deletes a record tells the operator of its
failure once, in words that begin with what was to be done and end with the reason. The two operations
that only look something up, a record among those that were listed and a field by its name, fail
without a notice.
-/

namespace TeacherRegistry

namespace Controller

/-- Whether something was looked up in vain. -/
def Error.isOfLookup : Error → Bool
  | .unknownField _ | .notFound _ => true
  | .transport _ | .invalid _ => false

variable {client : Client} {c : Controller} {u v w : World} {e : Error}

/-- What has been told of a failure, if nothing was told before it. -/
private theorem notices_since_notifyFailure (precedes : u.Precedes v)
    (mute : (v.since u).notices = []) (failure reason : String) :
    ((notifyFailure v failure reason).since u).notices =
      [(.failure, failure ++ ": " ++ reason)] := by
  have told : (notifyFailure v failure reason).since v =
      [.notice .failure (failure ++ ": " ++ reason)] := World.since_eq rfl
  rw [World.since_trans precedes ⟨_, rfl⟩, told, Journal.notices_append, mute]
  rfl

/-- A failed call has told nothing of itself, so the notice of it is the only one. -/
private theorem notices_of_refused (spends : w.Spends v) (failure reason : String) :
    ((notifyFailure v failure reason).since w).notices = [(.failure, failure ++ ": " ++ reason)] :=
  let ⟨news, grown, _⟩ := spends
  notices_since_notifyFailure ⟨news, grown⟩ spends.notices_since failure reason

/-- An operation has failed with an error of a call or of the draft, and has told it once. -/
structure Tells {α : Type} (w : World) (failure : String) (e : Error) (effect : Effect α) :
    Prop where
  notices : (effect.world.since w).notices = [(.failure, failure ++ ": " ++ e.message)]
  reason : e.isOfLookup = false

/-- An operation is what is done in its course. -/
theorem Tells.within {α : Type} {span : Log.Span} {act : World → Effect α} {failure : String}
    (inside : (act (w.enter span)).result = .error e →
      Tells (w.enter span) failure e (act (w.enter span)))
    (failed : (within span act w).result = .error e) : Tells w failure e (within span act w) :=
  let tells := inside failed
  ⟨tells.notices, tells.reason⟩

theorem tells_of_refresh (failed : (refresh client c w).result = .error e) :
    Tells w loadFailure e (refresh client c w) := by
  have ends := refreshing_refresh client c w
  generalize refresh client c w = effect at ends failed
  cases ends with
  | failed fetched =>
    cases failed
    obtain ⟨answer, called⟩ := request_of_fetch fetched
    exact ⟨notices_of_refused (Client.spends_of_request called) _ _, rfl⟩
  | done fetched => cases failed

theorem tells_of_save (failed : (save client c w).result = .error e) :
    Tells w saveFailure e (save client c w) := by
  have ends := saving_save client c w
  generalize save client c w = effect at ends failed
  cases ends with
  | invalid planned =>
    cases failed
    exact ⟨notices_of_refused (World.Spends.refl w) _ _, rfl⟩
  | refused planned called =>
    cases failed
    exact ⟨notices_of_refused (Client.spends_of_request called) _ _, rfl⟩
  | accepted planned called reloaded => cases failed

theorem tells_of_erase {id : TeacherId}
    (failed : (eraseIfConfirmed client c id w).result = .error e) :
    Tells w deleteFailure e (eraseIfConfirmed client c id w) := by
  have ends := erasing_erase client c w id
  generalize eraseIfConfirmed client c id w = effect at ends failed
  cases ends with
  | declined asked => cases failed
  | @refused e u v asked called =>
    cases failed
    -- the question in front of the call is no notice
    have grown := w.journal_ask deleteQuestion
    rw [asked] at grown
    have spends := Client.spends_of_request called
    have mute : (u.since w).notices = [] := by
      rw [World.since_trans ⟨_, grown⟩ (Client.precedes_of_request called), World.since_eq grown,
        Journal.notices_append, spends.notices_since]
      rfl
    have precedes : w.Precedes u :=
      World.Precedes.trans ⟨_, grown⟩ (Client.precedes_of_request called)
    exact ⟨notices_since_notifyFailure precedes mute _ _, rfl⟩
  | accepted asked called reloaded => cases failed

theorem tells_of_load (failed : (load client c w).result = .error e) :
    Tells w loadFailure e (load client c w) :=
  .within tells_of_refresh failed

theorem tells_of_submit (failed : (submit client c w).result = .error e) :
    Tells w saveFailure e (submit client c w) :=
  .within tells_of_save failed

theorem tells_of_delete {id : TeacherId} (failed : (delete client c id w).result = .error e) :
    Tells w deleteFailure e (delete client c id w) :=
  .within tells_of_erase failed

end Controller

namespace Desk

open Controller (loadFailure saveFailure deleteFailure Tells)

/-- What the notice of a failed action begins with, if there is one. -/
def Action.failure? : Action → Option String
  | .load => some loadFailure
  | .submit => some saveFailure
  | .delete _ => some deleteFailure
  | _ => none

/-- What an action that failed has told, `news` being what it has added to the journal. -/
structure Reports (action : Action) (e : Controller.Error) (news : Journal) : Prop where
  notices : news.notices =
    (action.failure?.map fun failure => (Tone.failure, failure ++ ": " ++ e.message)).toList
  told_iff : (∃ text, news.notices = [(.failure, text)]) ↔ e.isOfLookup = false

private theorem reports_of_tells {α : Type} {w : World} {action : Action} {failure : String}
    {e : Controller.Error} {effect : Controller.Effect α} (same : action.failure? = some failure)
    (tells : Tells w failure e effect) : Reports action e (effect.world.since w) := by
  refine ⟨by rw [tells.notices, same]; rfl, ?_⟩
  rw [tells.notices, tells.reason]
  exact ⟨fun _ => rfl, fun _ => ⟨_, rfl⟩⟩

private theorem reports_of_lookup {w : World} {action : Action} {e : Controller.Error}
    (same : action.failure? = none) (lookup : e.isOfLookup = true) :
    Reports action e (w.since w) := by
  refine ⟨by rw [w.since_self, same]; rfl, ?_⟩
  rw [w.since_self, lookup]
  constructor
  · intro ⟨text, told⟩
    cases told
  · intro impossible
    cases impossible

theorem reports_of_act {desk : Desk} {action : Action} {e : Controller.Error}
    (failed : (desk.act action).1 = .error (.controller e)) :
    Reports action e ((desk.act action).2.world.since desk.world) := by
  cases action with
  | load =>
    simp only [act, world_ofEffect] at failed ⊢
    exact reports_of_tells rfl (Controller.tells_of_load (error_of_ofEffect failed))
  | submit =>
    simp only [act, world_ofEffect] at failed ⊢
    exact reports_of_tells rfl (Controller.tells_of_submit (error_of_ofEffect failed))
  | delete id =>
    simp only [act, world_ofEffect] at failed ⊢
    exact reports_of_tells rfl (Controller.tells_of_delete (error_of_ofEffect failed))
  | beginEditById id =>
    simp only [act, world_ofEffect] at failed ⊢
    have result := error_of_ofEffect failed
    unfold Controller.beginEditById at result ⊢
    split at result
    · cases result
    · cases result
      exact reports_of_lookup rfl rfl
  | updateFieldByName name value =>
    simp only [act] at failed ⊢
    unfold Controller.updateFieldByName at failed ⊢
    split at failed
    · cases failed
    next unknown =>
      split at unknown
      · cases unknown
      · cases failed
        cases unknown
        exact reports_of_lookup rfl rfl
  | login | loginAsGuest | validate | logout | isLoggedIn | user | storeGet | storeSet
  | storeRemove | request =>
    simp only [act] at failed
    obtain ⟨given, _, impossible⟩ := error_of_ofWorld failed
    cases impossible
  | _ => cases failed

/-- Whatever has been done at a desk, an operation of the controller that fails gives the operator
one notice, of what was to be done and why it was not, unless something was looked up in vain: then
it gives none. -/
theorem failures_reported (desk : Desk) (step : Step) (e : Controller.Error)
    (failed : (desk.take step).1 = .error (.controller e)) :
    Reports step.action e ((desk.take step).2.world.since desk.world) :=
  reports_of_act failed

/-- The error of the controller in what an action gives. -/
def controllerError? : Except Failure Report → Option Controller.Error
  | .error (.controller e) => some e
  | _ => none

theorem eq_of_controllerError? {given : Except Failure Report} {e : Controller.Error}
    (some : controllerError? given = some e) : given = .error (.controller e) := by
  unfold controllerError? at some
  split at some
  · cases some
    rfl
  · cases some

/-- The server has broken down when the list is read. -/
def brokenLoad : Step :=
  ⟨.script [.answer ⟨500, [], "\x7b\"error\":\"Internal Server Error\"\x7d".toUTF8⟩], .load⟩

theorem failures_reported_brokenLoad :
    (sample.take brokenLoad).1 =
        .error (.controller (.transport (.request 500 "Internal Server Error"))) ∧
      ((sample.take brokenLoad).2.world.since sample.world).notices =
        [(.failure, "Error al cargar docentes: Internal Server Error")] := by
  have failed : (sample.take brokenLoad).1 =
      .error (.controller (.transport (.request 500 "Internal Server Error"))) :=
    eq_of_controllerError? (by decide +kernel)
  exact ⟨failed, (failures_reported sample brokenLoad _ failed).notices⟩

/-- A record that was not listed is not edited, and nobody is told. -/
theorem unlisted_unreported :
    ¬ ∀ (steps : List Step) (step : Step) (e : Controller.Error),
      ((sample.run steps).take step).1 = .error (.controller e) →
        ∃ text, (((sample.run steps).take step).2.world.since (sample.run steps).world).notices =
          [(.failure, text)] := by
  intro always
  obtain ⟨text, told⟩ :=
    always [] ⟨.unreachable, .beginEditById (.number 7)⟩ (.notFound "7") rfl
  cases told

end Desk

end TeacherRegistry
