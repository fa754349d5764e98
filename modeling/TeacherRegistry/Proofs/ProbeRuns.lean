import TeacherRegistry.Proofs.ProbeStages

/-!
# What a probe that passes has seen

A probe goes on even where the list could not be read again after a change, and looks at the list
that it has. It passes all the same only if the last reading succeeded: just before the deletion the
controller shows the record, so it would show it still. Here the steps of a probe are followed from
stage to stage, up to a run that ends with the exit code of success.
-/

namespace TeacherRegistry.Probe

open Http (FarEnd Hop Reply)
open TransportError (unauthorized)

/-- A step goes through here, gives this, and ends there. -/
def Runs {α : Type} (step : Step α) (p : Progress) (a : α) (q : Progress) : Prop :=
  (step.run.run p).run = (.ok a, q)

/-! ### Steps that go through -/

section

variable {α β ε : Type} {p q : Progress} {a : α} {b : β}

@[simp] theorem runs_bind {step : Step α} {next : α → Step β} :
    Runs (step >>= next) p b q ↔ ∃ a r, Runs step p a r ∧ Runs (next a) r b q := by
  unfold Runs
  rw [ExceptT.run_bind, StateT.run_bind, Id.run_bind]
  rcases (step.run.run p).run with ⟨e | value, r⟩
  · simp
  · simp

@[simp] theorem runs_pure {value : α} : Runs (pure value) p a q ↔ value = a ∧ p = q := by
  show ((.ok value, p) : Except Fault α × Progress) = (.ok a, q) ↔ _
  simp

@[simp] theorem not_runs_throw {fault : Fault} : ¬ Runs (throw fault : Step α) p a q := by
  show ¬ ((.error fault, p) : Except Fault α × Progress) = (.ok a, q)
  simp

@[simp] theorem runs_expect {condition : Bool} {finding : String} {a : Unit} :
    Runs (expect condition finding) p a q ↔ condition = true ∧ p = q := by
  cases condition with
  | true => simp [expect]
  | false => simp [expect]

@[simp] theorem runs_say {line : String} {a : Unit} :
    Runs (say line) p a q ↔ { p with world := p.world.print line } = q := by
  show ((.ok (), { p with world := p.world.print line }) : Except Fault Unit × Progress) =
    (.ok a, q) ↔ _
  simp

@[simp] theorem runs_inForm {change : Controller → Controller} {a : Unit} :
    Runs (inForm change) p a q ↔ { p with controller := change p.controller } = q := by
  show ((.ok (), { p with controller := change p.controller }) : Except Fault Unit × Progress) =
    (.ok a, q) ↔ _
  simp

@[simp] theorem runs_seen {view : Controller → α} :
    Runs (seen view) p a q ↔ view p.controller = a ∧ p = q := by
  show ((.ok (view p.controller), p) : Except Fault α × Progress) = (.ok a, q) ↔ _
  simp

@[simp] theorem runs_get {r : Progress} : Runs get p r q ↔ p = r ∧ p = q := by
  show ((.ok p, p) : Except Fault Progress × Progress) = (.ok r, q) ↔ _
  simp

@[simp] theorem runs_set {r : Progress} {a : PUnit} : Runs (set r) p a q ↔ r = q := by
  show ((.ok a, r) : Except Fault PUnit × Progress) = (.ok a, q) ↔ _
  simp

@[simp] theorem runs_inWorld {fault : ε → Fault} {act : World → Except ε α × World} :
    Runs (inWorld fault act) p a q ↔
      (act p.world).1 = .ok a ∧ { p with world := (act p.world).2 } = q := by
  show (((act p.world).1.mapError fault, { p with world := (act p.world).2 }) :
    Except Fault α × Progress) = (.ok a, q) ↔ _
  cases (act p.world).1 <;> simp [Except.mapError]

@[simp] theorem runs_atController {act : Controller → World → Controller.Effect α} :
    Runs (atController act) p a q ↔
      (act p.controller p.world).result = .ok a ∧
        ⟨(act p.controller p.world).controller, (act p.controller p.world).world⟩ = q := by
  show (((act p.controller p.world).result.mapError .controller,
    ⟨(act p.controller p.world).controller, (act p.controller p.world).world⟩) :
    Except Fault α × Progress) = (.ok a, q) ↔ _
  cases (act p.controller p.world).result <;> simp [Except.mapError]

end

/-! ### The parts of a probe -/

/-- The path and the body of the login. -/
def opening : Option (String × String) → String × String
  | some (username, password) => (Session.loginPath, Session.loginBody username password)
  | none => (Session.guestPath, Session.guestBody)

/-- The operation that the login is. -/
def openingSpan : Option (String × String) → Log.Span
  | some (username, _) => .login username
  | none => .loginAsGuest

/-- Whoever logs in does so by one request. -/
theorem login_eq (client : Client) (operator : Option (String × String)) :
    login client operator = inWorld .session (Session.within (openingSpan operator)
      (Session.open? client (opening operator).1 (opening operator).2)) := by
  cases operator <;> rfl

/-- The record that is created. -/
def draft (number : String) : Teacher :=
  (((Teacher.empty.set .idNumber number).set .name "Sonda Smoke Test").set .email
    "smoke@edudata.local").set .specialty specialty

/-- A controller that has done nothing but read these records. -/
def showing (teachers : List Teacher) : Controller :=
  { Controller.initial with collection := teachers }

/-- The same controller with a draft in its form. -/
def composing (teachers : List Teacher) (draft : Teacher) (editing : Bool) : Controller :=
  { showing teachers with draft, editing, formVisible := true }

section

variable {client : Client} {replies : List Reply} {hops : List Hop} {c : Controller}
  {w : World} {q : Progress} {before : List Teacher} {done : Unit}

variable (direct : (FarEnd.script replies).IsDirect) (once : client.maxRetries = 0)

include direct once

theorem stage_of_login {operator : Option (String × String)} {profile : Json.Value}
    (runs : Runs (login client operator) ⟨c, w⟩ profile q) (stage : Stage replies hops w) :
    ∃ hop, hop.request.Asks client "POST" (opening operator).1 (some (opening operator).2) ∧
      Stage replies (hops ++ [hop]) q.world ∧ q.controller = c := by
  simp only [login_eq, runs_inWorld] at runs
  obtain ⟨opened, rfl⟩ := runs
  obtain ⟨hop, asks, later⟩ := stage.opened direct once opened
  dsimp only
  exact ⟨hop, asks, later, rfl⟩

/-- The record that comes out of the creation is one that the controller shows. -/
theorem stage_of_create {number : String} {created : Teacher} {id : TeacherId}
    (runs : Runs (create client number) ⟨c, w⟩ (created, id) q)
    (stage : Stage replies hops w) (shown : c = showing before) :
    ∃ change again,
      change.request.Asks client "POST" Controller.listPath (some (draft number).json) ∧
      again.request.Asks client "GET" Controller.listPath none ∧
      Stage replies (hops ++ [change, again]) q.world ∧
      q.controller = showing (again.listed?.getD before) ∧
      created ∈ again.listed?.getD before ∧ created.idNumber = number ∧ created.id = some id := by
  simp only [create, runs_bind, runs_inForm, runs_atController, runs_expect, runs_seen, beq_iff_eq,
    existsAndEq, and_true, exists_eq_left', exists_const, true_and] at runs
  have filled : (((c.toggleForm.updateField .idNumber number).updateField .name
      "Sonda Smoke Test").updateField .email "smoke@edudata.local").updateField .specialty
      specialty = composing before (draft number) false := by
    rw [shown]
    rfl
  rw [filled] at runs
  obtain ⟨saved, runs⟩ := runs
  obtain ⟨path, change, again, planned, asks, rereads, later, controller⟩ :=
    stage.submitted direct once _ saved
  generalize Controller.submit client (composing before (draft number) false) w = effect
    at runs later controller
  -- a form that was opened for a new record is sent to the list
  obtain ⟨_, _, rfl⟩ | ⟨_, editing, _⟩ := Controller.plan_cases planned
  · split at runs
    · exact absurd runs not_runs_throw
    next found found? =>
      split at runs
      · exact absurd runs not_runs_throw
      next known =>
        obtain ⟨same, rfl⟩ := runs_pure.mp runs
        cases same
        rw [controller] at found?
        have matching := List.find?_some found?
        exact ⟨change, again, asks, rereads, later, controller, List.mem_of_find?_eq_some found?,
          beq_iff_eq.mp matching, known⟩
  · cases editing

theorem stage_of_edit {created : Teacher} {id : TeacherId}
    (runs : Runs (edit client created id) ⟨c, w⟩ done q)
    (stage : Stage replies hops w) (shown : c = showing before)
    (known : created.id = some id) :
    ∃ change again,
      change.request.Asks client "PUT" (Controller.itemPath id)
        (some { created with specialty := editedSpecialty }.json) ∧
      again.request.Asks client "GET" Controller.listPath none ∧
      Stage replies (hops ++ [change, again]) q.world ∧
      q.controller = showing (again.listed?.getD before) ∧
      (q.controller.find? id).isSome = true := by
  simp only [edit, runs_bind, runs_get, runs_set, runs_inForm, runs_atController, runs_expect,
    runs_seen, beq_iff_eq, existsAndEq, and_true, exists_eq_left', exists_const, true_and,
    exists_and_right] at runs
  have filled : (c.beginEdit created w).1.updateField .specialty editedSpecialty =
      composing before { created with specialty := editedSpecialty } true := by
    rw [shown]
    rfl
  have begun : (c.beginEdit created w).2 = w.log (.editBegun (Controller.idText created.id)) := rfl
  rw [filled, begun] at runs
  obtain ⟨saved, runs⟩ := runs
  obtain ⟨path, change, again, planned, asks, rereads, later, controller⟩ :=
    (stage.log _).submitted direct once _ saved
  generalize Controller.submit client (composing before { created with specialty := editedSpecialty }
    true) (w.log (.editBegun (Controller.idText created.id))) = effect at runs later controller
  -- a record that was put into the form is sent under its own identifier
  obtain ⟨editing, _⟩ | ⟨own, _, same, _, rfl⟩ := Controller.plan_cases planned
  · cases editing
  · obtain rfl : id = own := Option.some.inj (known.symm.trans same)
    split at runs
    · exact absurd runs not_runs_throw
    next edited held =>
      obtain ⟨_, rfl⟩ := runs_expect.mp runs
      exact ⟨change, again, asks, rereads, later, controller, Option.isSome_of_eq_some held⟩

/-- If the last list could not be read the controller would still show the record. -/
theorem stage_of_delete {id : TeacherId} {count : Nat}
    (runs : Runs (delete client id count) ⟨c, w⟩ done q)
    (stage : Stage replies hops w) (held : (c.find? id).isSome = true) :
    ∃ change again after,
      change.request.Asks client "DELETE" (Controller.itemPath id) none ∧
      again.request.Asks client "GET" Controller.listPath none ∧
      again.listed? = some after ∧ after.length = count ∧
      (∀ teacher ∈ after, teacher.id ≠ some id) ∧
      Stage replies (hops ++ [change, again]) q.world := by
  simp only [delete, runs_bind, runs_atController, runs_expect, runs_seen, beq_iff_eq, existsAndEq,
    and_true, exists_eq_left', exists_const, true_and, Option.isNone_iff_eq_none] at runs
  obtain ⟨deleted, gone, length, rfl⟩ := runs
  obtain ⟨change, again, asks, rereads, later, controller⟩ := stage.deleted direct once _ deleted
  rw [controller] at gone length
  cases listed : again.listed? with
  | none =>
    rw [listed] at gone
    change c.find? id = none at gone
    rw [gone] at held
    cases held
  | some after =>
    rw [listed] at gone length
    refine ⟨change, again, after, asks, rereads, listed, length, ?_, later⟩
    intro teacher among same
    apply List.find?_eq_none.mp gone teacher among
    exact beq_iff_eq.mpr same

end

/-! ### The whole probe -/

/-- The requests of a probe in their order, each with the reply to it. -/
structure Round where
  login : Hop
  validation : Hop
  listing : Hop
  creation : Hop
  listingAfterCreation : Hop
  edit : Hop
  listingAfterEdit : Hop
  deletion : Hop
  listingAfterDeletion : Hop

def Round.hops (round : Round) : List Hop :=
  [round.login, round.validation, round.listing, round.creation, round.listingAfterCreation,
    round.edit, round.listingAfterEdit, round.deletion, round.listingAfterDeletion]

/-- The requests of a probe that creates, edits and deletes the record with this identifier. -/
structure Round.Asks (round : Round) (client : Client) (operator : Option (String × String))
    (number : String) (created : Teacher) (id : TeacherId) : Prop where
  login : round.login.request.Asks client "POST" (opening operator).1 (some (opening operator).2)
  validation : round.validation.request.Asks client "GET" "/auth/validate" none
  listing : round.listing.request.Asks client "GET" "/docentes" none
  creation : round.creation.request.Asks client "POST" "/docentes" (some (draft number).json)
  listingAfterCreation : round.listingAfterCreation.request.Asks client "GET" "/docentes" none
  edit : round.edit.request.Asks client "PUT" (Controller.itemPath id)
    (some { created with specialty := editedSpecialty }.json)
  listingAfterEdit : round.listingAfterEdit.request.Asks client "GET" "/docentes" none
  deletion : round.deletion.request.Asks client "DELETE" (Controller.itemPath id) none
  listingAfterDeletion : round.listingAfterDeletion.request.Asks client "GET" "/docentes" none

/-- What a probe has been shown of the record it creates: the list that it begins with, the record in
the list as it is known after the creation, and a last list that is as long as the first one and
without the record. -/
structure Round.Shows (round : Round) (number : String) (created : Teacher) (id : TeacherId)
    (before after : List Teacher) : Prop where
  listed : round.listing.listed? = some before
  among : created ∈ round.listingAfterCreation.listed?.getD before
  number : created.idNumber = number
  known : created.id = some id
  relisted : round.listingAfterDeletion.listed? = some after
  length : after.length = before.length
  gone : ∀ teacher ∈ after, teacher.id ≠ some id

/-- A probe that goes through has made its nine requests, and none of them was refused. -/
theorem round_of_steps {client : Client} {replies : List Reply} {c : Controller} {w : World}
    {q : Progress} {done : Unit} {operator : Option (String × String)} {stamp : Nat}
    (direct : (FarEnd.script replies).IsDirect) (once : client.maxRetries = 0)
    (runs : Runs (steps client operator stamp) ⟨c, w⟩ done q) (stage : Stage replies [] w)
    (fresh : c = .initial) :
    ∃ (round : Round) (created : Teacher) (id : TeacherId) (before after : List Teacher),
      round.Asks client operator (idNumber stamp) created id ∧
      round.Shows (idNumber stamp) created id before after ∧ Stage replies round.hops q.world ∧
      ∀ hop ∈ round.hops, hop.reply.status? ≠ some unauthorized := by
  simp only [steps, runs_bind, runs_say, runs_inWorld, runs_expect, runs_atController,
    runs_seen, runs_inForm, beq_iff_eq, runs_get, List.isEmpty_iff, existsAndEq, and_true,
    exists_const, exists_eq_left', exists_and_right, Prod.exists, Bool.exists_bool,
    Bool.false_eq_true, false_and, and_false, true_and, false_or] at runs
  obtain ⟨profile, opened, logged, valid, ⟨_, loaded⟩, created, id, added, creation, _, changed,
    edition, _, _, removed, deletion, _, nobody, rfl⟩ := runs
  obtain ⟨login, asksLogin, stage, same⟩ := stage_of_login direct once logged (stage.print _)
  obtain ⟨validation, asksValidation, stage⟩ := stage.validated direct once valid
  obtain ⟨listing, before, asksListing, listed, stage, controller⟩ :=
    ((stage.print _).print _).loaded direct once _ loaded
  -- nothing has been done with the form so far
  have shown := controller.trans (congrArg (fun c => { c with collection := before })
    (same.trans fresh))
  obtain ⟨creating, listingAfterCreation, asksCreation, rereads, stage, shown', among, number,
    known⟩ := stage_of_create direct once creation ((stage.print _).print _) shown
  obtain ⟨editing, listingAfterEdit, asksEdit, rereads', stage, _, held⟩ :=
    stage_of_edit direct once edition ((stage.print _).print _) shown' known
  -- taking the search term back leaves the controller as it was
  obtain ⟨deleting, listingAfterDeletion, after, asksDeletion, rereads'', listed', length, gone,
    stage⟩ := stage_of_delete direct once deletion ((stage.print _).print _) held
  have ended := (stage.print "✅ Deleted").logout
  refine ⟨⟨login, validation, listing, creating, listingAfterCreation, editing, listingAfterEdit,
    deleting, listingAfterDeletion⟩, created, id, before, after, ?_, ?_, ended.print _,
    ended.watched nobody⟩
  · exact ⟨asksLogin, asksValidation, asksListing, asksCreation, rereads, asksEdit, rereads',
      asksDeletion, rereads''⟩
  · refine ⟨listed, among, number, known, listed', ?_, gone⟩
    rw [length, shown]

/-- A probe starts with nothing heard and with a session in memory. -/
theorem stage_startingWorld (replies : List Reply) :
    Stage replies [] (startingWorld (.script replies)) where
  made := rfl
  heard := rfl
  farEnd := rfl
  guarded := ⟨rfl, trivial⟩
  expiry := rfl
  watched := fun _ => List.forall_mem_nil _

/-- A list was read from a reply of the script, since after its end there are none. -/
theorem length_of_listed {replies : List Reply} {hops : List Hop} {hop : Hop} {w : World}
    {teachers : List Teacher} (stage : Stage replies (hops ++ [hop]) w)
    (listed : hop.listed? = some teachers) : hops.length < replies.length := by
  by_contra ended
  have heard := stage.heard
  rw [List.map_append, List.length_append, List.length_singleton, FarEnd.foretold_succ,
    FarEnd.upcoming_drop_of_ended (by omega)] at heard
  have refused : hop.reply = .answer Http.notFound :=
    List.singleton_inj.mp (List.append_inj_right' heard rfl)
  -- there is no list in a refusal
  unfold Hop.listed? at listed
  rw [refused] at listed
  cases listed

/-- A probe that ends well has a client, and all its steps went through. -/
theorem runs_of_settled {config : Config} {environment : Config.Environment} {farEnd : FarEnd}
    {stamp : Nat} (passed : (runSettled config environment farEnd stamp).1 = .ok ()) :
    ∃ client line q, Client.ofConfig config = .ok client ∧
      Runs (steps client (operator? environment) stamp)
        ⟨.initial, (startingWorld farEnd).print line⟩ () q ∧
      (runSettled config environment farEnd stamp).2 = q.world := by
  unfold runSettled at *
  cases bound : Client.ofConfig config with
  | error e =>
    rw [bound] at passed
    cases passed
  | ok client =>
    rw [bound] at passed
    simp only at passed ⊢
    generalize "--- Starting API Client Smoke Test ---\n" ++ config.display = line at passed ⊢
    cases ended : (steps client (operator? environment) stamp).run
        ⟨.initial, (startingWorld farEnd).print line⟩ with
    | mk outcome q =>
      rw [ended] at passed
      cases passed
      exact ⟨client, line, q, rfl, ended, rfl⟩

/-- The exit code of success is that of a probe which ended well, and no other run has it. -/
theorem settled_of_passed {environment settings : Config.Environment} {farEnd : FarEnd}
    {disk : Disk} {stamp : Nat} {config : Config}
    (known : Config.VariableFile.loadNearest disk [".env"] environment = some settings)
    (configured : Config.load disk none settings = .ok config)
    (passed : (run environment farEnd disk stamp).exitCode = 0) :
    (runSettled config settings farEnd stamp).1 = .ok () ∧
      (run environment farEnd disk stamp).requests =
        (runSettled config settings farEnd stamp).2.journal.requests := by
  unfold run runKnown at *
  simp only [known, configured] at passed ⊢
  split at passed
  next readable =>
    rw [if_pos readable]
    generalize runSettled config settings farEnd stamp = settled at passed ⊢
    obtain ⟨outcome, w⟩ := settled
    cases outcome with
    | error fault => cases passed
    | ok done => exact ⟨rfl, rfl⟩
  · cases passed

/-- The probe is sound. If nothing is sent twice and no reply redirects, then a run that ends with
the exit code of success has made exactly the nine requests of a round, to which it got the first
nine replies of the script; the record was changed and deleted at one address; no reply refused the
session; and the last request brought a list as long as the first one and without the record. So a
last reading of the list that failed never passes. -/
theorem seen_of_passed {environment settings : Config.Environment} {disk : Disk}
    {replies : List Reply} {stamp : Nat} {config : Config}
    (known : Config.VariableFile.loadNearest disk [".env"] environment = some settings)
    (configured : Config.load disk none settings = .ok config) (once : config.maxRetries = 0)
    (direct : (FarEnd.script replies).IsDirect)
    (passed : (run environment (.script replies) disk stamp).exitCode = 0) :
    ∃ (client : Client) (round : Round) (created : Teacher) (id : TeacherId)
      (before after : List Teacher),
      Client.ofConfig config = .ok client ∧
      (run environment (.script replies) disk stamp).requests = round.hops.map Hop.request ∧
      replies.take 9 = round.hops.map Hop.reply ∧
      round.Asks client (operator? settings) (idNumber stamp) created id ∧
      round.edit.request.url = round.deletion.request.url ∧
      (∀ hop ∈ round.hops, hop.reply.status? ≠ some 401) ∧
      round.Shows (idNumber stamp) created id before after := by
  obtain ⟨settled, requests⟩ := settled_of_passed known configured passed
  obtain ⟨client, line, q, bound, runs, ended⟩ := runs_of_settled settled
  have single : client.maxRetries = 0 := (Client.maxRetries_of_ofConfig bound).trans once
  obtain ⟨round, created, id, before, after, asks, shows, stage, accepted⟩ :=
    round_of_steps direct single runs ((stage_startingWorld replies).print line) rfl
  refine ⟨client, round, created, id, before, after, bound, ?_, ?_, asks, ?_, accepted, shows⟩
  · rw [requests, ended, Journal.requests_eq, stage.made]
  · have last : round.hops = round.hops.dropLast ++ [round.listingAfterDeletion] := rfl
    have enough : round.hops.length ≤ replies.length := by
      rw [last] at stage
      have more := length_of_listed stage shows.relisted
      rw [List.length_dropLast] at more
      omega
    rw [stage.heard, FarEnd.foretold_eq_take enough]
    rfl
  · exact asks.edit.url_eq asks.deletion

/-- Replies of a server that does as it is told. -/
def obedientReplies : List Reply :=
  let answer (body : String) : Reply := .answer ⟨200, [], body.toUTF8⟩
  [answer "\x7b\"token\":\"t\"\x7d", answer "", answer "[]",
    answer "", answer ("[\x7b\"id\":7,\"identificacion\":\"0000000000\",\"nombre\":\"S\"," ++
      "\"email\":\"s@x.y\"\x7d]"),
    answer "", answer ("[\x7b\"id\":7,\"identificacion\":\"0000000000\",\"especialidad\":\"" ++
      editedSpecialty ++ "\"\x7d]"),
    answer "", answer "[]"]

theorem seen_of_passed_obedient :
    (run [] (.script obedientReplies) ⟨[], []⟩ 0).exitCode = 0 ∧
      (run [] (.script obedientReplies) ⟨[], []⟩ 0).requests.length = 9 := by
  have passed : (run [] (.script obedientReplies) ⟨[], []⟩ 0).exitCode = 0 := by decide +kernel
  have configured : Config.load ⟨[], []⟩ none [] = .ok Config.default := by decide +kernel
  have direct : (FarEnd.script obedientReplies).IsDirect := by
    show ∀ reply ∈ [_, _, _, _, _, _, _, _, _], Reply.isRedirection reply = false
    decide
  obtain ⟨client, round, created, id, before, after, _, requests, _⟩ :=
    seen_of_passed rfl configured rfl direct passed
  exact ⟨passed, by rw [requests]; rfl⟩

end TeacherRegistry.Probe
