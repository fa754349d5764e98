import TeacherRegistry.Proofs.ConsoleIsolation
import TeacherRegistry.Proofs.GivenFlags
import TeacherRegistry.Proofs.ListedIds
import TeacherRegistry.Proofs.SingleReplies
import TeacherRegistry.Proofs.TypedTexts
import TeacherRegistry.Proofs.ValidRecords

/-!
# An update reads, replaces and writes

The command that changes a record reads the list, takes the first record with the identifier, puts the
given texts into its fields and sends the whole record back; what was not given stays as it was
listed. The reply to that request decides how the command ends. The list is read once more, but what
comes of that makes no difference.
-/

namespace TeacherRegistry

open Controller (itemPath listPath)
open Http (FarEnd Hop Reply Request)

/-! ### The record that is sent -/

namespace Teacher

/-- The record with new texts in those fields that are given one, and otherwise as it was. -/
def replacing (t : Teacher) (fields : List (Field × String)) : Teacher :=
  { t with
    idNumber := ((fields.lookup .idNumber).map cleanIdNumber).getD t.idNumber
    name := (fields.lookup .name).getD t.name
    email := (fields.lookup .email).getD t.email
    specialty := (fields.lookup .specialty).getD t.specialty }

theorem get_replacing (t : Teacher) (fields : List (Field × String)) (field : Field) :
    (t.replacing fields).get field = ((fields.lookup field).map field.held).getD (t.get field) := by
  cases field with
  | idNumber => rfl
  | name | email | specialty =>
    simp only [replacing, get]
    cases fields.lookup _ <;> rfl

end Teacher

namespace Console

open Teacher (Field)

private theorem lookup_filterMap (given : Field → Option String) (fields : List Field)
    {field : Field} (among : field ∈ fields) :
    (fields.filterMap fun field => (given field).map (field, ·)).lookup field = given field := by
  induction fields with
  | nil => cases among
  | cons first rest ih =>
    by_cases same : field = first
    · subst same
      cases found : given field with
      | some text => simp [found]
      | none =>
        -- the field may come again, but it is not given anything there either
        rw [List.filterMap_cons, found, Option.map_none]
        by_cases again : field ∈ rest
        · exact (ih again).trans found
        · refine List.lookup_eq_none_iff.mpr fun entry listed => ?_
          obtain ⟨other, member, made⟩ := List.mem_filterMap.mp listed
          obtain ⟨text, _, rfl⟩ := Option.map_eq_some_iff.mp made
          have other : field ≠ other := by
            rintro rfl
            exact again member
          exact bne_iff_ne.mpr other
    · have later := ih ((List.mem_cons.mp among).resolve_left same)
      have other : (field == first) = false := beq_eq_false_iff_ne.mpr same
      cases found : given first <;> simp [found, List.lookup_cons, other, later]

private theorem mem_all (field : Field) : field ∈ Field.all := by
  cases field <;> decide

theorem lookup_typedFields (given : Given) (field : Field) :
    (typedFields given).lookup field = given.lookup field.label :=
  lookup_filterMap (fun field => given.lookup field.label) Field.all (mem_all field)

/-- Typing the given texts into a record replaces what they are given for. -/
theorem fill_typedFields (t : Teacher) (given : Given) :
    t.fill (typedFields given) = t.replacing (typedFields given) := by
  refine Teacher.eq_of_get (Teacher.id_fill t _) fun field => ?_
  have last : (typedFields given).reverse.lookup field = given.lookup field.label := by
    rw [typedFields, ← List.filterMap_reverse]
    exact lookup_filterMap (fun field => given.lookup field.label) Field.all.reverse
      (List.mem_reverse.mpr (mem_all field))
  rw [Teacher.get_fill, Teacher.get_replacing, last, lookup_typedFields]

private theorem fields_of_command {name id : String} {given : Given} {known : Config.Environment}
    {fields : TypedFields} (made : command name given known = .ok (.update id fields)) :
    fields = typedFields given := by
  unfold command at made
  split at made
  case h_3 =>
    -- the one command that makes an update needs an identifier
    cases found : given.lookup "id" <;> rw [found] at made <;> cases made
    rfl
  case h_4 => cases found : given.lookup "id" <;> rw [found] at made <;> cases made
  case h_5 =>
    simp only [bind, Except.bind] at made
    split at made
    · cases made
    · split at made <;> cases made
  all_goals cases made

/-- The texts that a command line gives for fields are those of its options. -/
theorem fields_of_ofWords {words : List String} {known : Config.Environment}
    {arguments : Arguments} (called : Arguments.ofWords words known = .ok arguments) {id : String}
    {fields : TypedFields} (update : arguments.command = .update id fields) :
    ∃ given, fields = typedFields given := by
  obtain ⟨name, _, before, after, _, _, _, _, _, assembled⟩ := levels_of_ofWords called
  cases made : command name after known with
  | error refusal =>
    simp only [assemble, made, bind, Except.bind] at assembled
    cases assembled
  | ok command =>
    simp only [assemble, made, bind, Except.bind, pure, Except.pure, Except.ok.injEq] at assembled
    subst assembled
    cases update
    exact ⟨after, fields_of_command made⟩

/-! ### The course of an update -/

/-- What comes of an update after this request for the list, if `m` is to be sent under an
identifier: the requests of the whole run and its exit code. -/
inductive Rewrites (client : Client) (m : Teacher) (id : TeacherId) (list : Request)
    (reply : Reply) : List Request → Nat → Prop where
  | faulty (fault : m.fault? ≠ none) : Rewrites client m id list reply [list] 1
  | refused {put : Request} (sound : m.fault? = none)
    (asks : put.Asks client "PUT" (itemPath id) (some m.json))
    (carries : Teacher.ofString? put.body = some m) (refused : ¬ Hop.IsAnswered ⟨put, reply⟩) :
    Rewrites client m id list reply [list, put] 1
  | accepted {put again : Request} (sound : m.fault? = none)
    (asks : put.Asks client "PUT" (itemPath id) (some m.json))
    (carries : Teacher.ofString? put.body = some m) (answered : Hop.IsAnswered ⟨put, reply⟩)
    (rereads : again.Asks client "GET" listPath none) :
    Rewrites client m id list reply [list, put, again] 0

/-- A record that may be sent is sent, and if it is answered then all went well. -/
theorem Rewrites.of_answered {client : Client} {m : Teacher} {id : TeacherId} {list : Request}
    {reply : Reply} {requests : List Request} {exitCode : Nat}
    (rewrites : Rewrites client m id list reply requests exitCode) (sound : m.fault? = none)
    (answered : ∀ put : Request, Hop.IsAnswered ⟨put, reply⟩) :
    exitCode = 0 ∧ ∃ put again : Request, requests = [list, put, again] ∧
      put.Asks client "PUT" (itemPath id) (some m.json) := by
  cases rewrites with
  | faulty fault => exact absurd sound fault
  | refused _ _ _ refused => exact absurd (answered _) refused
  | accepted _ asks => exact ⟨rfl, _, _, rfl, asks⟩

end Console

theorem Controller.plan_of_editing {c : Controller} {id : TeacherId} (editing : c.editing = true)
    (known : c.draft.id = some id) (sound : c.draft.fault? = none) :
    c.plan = .ok (.updated, "PUT", itemPath id) := by
  rw [plan, editing, known, sound]

theorem Controller.plan_of_fault {c : Controller} {fault : Teacher.Fault}
    (found : c.draft.fault? = some fault) : c.plan = .error fault := by
  rw [plan, found]

theorem Teacher.carries_of_asks {request : Request} {client : Client} {method path : String}
    {m : Teacher} (asks : request.Asks client method path (some m.json)) :
    ofString? request.body = some m := by
  rw [asks.body]
  exact m.reread

namespace Console

theorem world_endingOf {α : Type} (effect : Controller.Effect α) :
    (endingOf effect).2 = effect.world := by
  unfold endingOf
  split <;> rfl

theorem exitCode_endingOf {α : Type} (effect : Controller.Effect α) :
    (endingOf effect).1.exitCode = match effect.result with
      | .ok _ => 0
      | .error _ => 1 := by
  unfold endingOf
  cases effect.result <;> rfl

theorem precedes_runUpdate (client : Client) (id : String) (fields : TypedFields) (w : World) :
    w.Precedes (runUpdate client id fields w).2 := by
  have loads := Controller.leads_load client .initial w
  unfold runUpdate
  generalize Controller.load client .initial w = loading at loads
  obtain ⟨result, c, v⟩ := loading
  cases result with
  | error e => exact loads.precedes
  | ok _ =>
    have begins := Controller.leads_beginEditById client c (.ofString id) v
    simp only
    generalize c.beginEditById (.ofString id) v = beginning at begins
    obtain ⟨result, c, u⟩ := beginning
    cases result with
    | error e => exact (loads.trans begins).precedes
    | ok _ =>
      simp only [world_endingOf]
      exact ((loads.trans begins).trans (Controller.leads_submit client _ u)).precedes

section

variable {client : Client} {w : World} {replies : List Reply}

/-- The end of an update, once the record is under edit with the texts in place. -/
private theorem rewrites_submit {c : Controller} {id : TeacherId} (list : Request)
    (editing : c.editing = true) (known : c.draft.id = some id)
    (stored : w.farEnd = .script replies) (direct : w.farEnd.IsDirect)
    (once : client.maxRetries = 0) (reaches : client.Reaches (itemPath id) w.farEnd) :
    Rewrites client c.draft id list (FarEnd.upcoming replies)
      (list :: ((endingOf (c.submit client w)).2.since w).requests)
      (endingOf (c.submit client w)).1.exitCode := by
  rw [world_endingOf, exitCode_endingOf]
  cases found : c.draft.fault? with
  | some fault =>
    have told := World.silent_notify w .failure (Controller.saveFailure ++ ": " ++ fault.message)
    rw [Controller.submit_of_fault client w (Controller.plan_of_fault found),
      Controller.notifyFailure, Journal.requests_eq, told.hops_since]
    exact .faulty (found ▸ Option.some_ne_none fault)
  | none =>
    have concludes := Controller.concludes_submit stored direct once
      (Controller.plan_of_editing editing known found) reaches
    generalize (c.submit client w).result = result at concludes ⊢
    generalize ((c.submit client w).world.since w).requests = requests at concludes ⊢
    cases concludes with
    | accepted asks answered rereads =>
      exact .accepted found asks (Teacher.carries_of_asks asks) answered rereads
    | refused asks refused => exact .refused found asks (Teacher.carries_of_asks asks) refused

theorem rewrites_runUpdate {base : Url} (parsed : Url.parse client.baseUrl = .ok base)
    (network : Url.IsNetwork base.scheme) (once : client.maxRetries = 0) {first : Reply}
    (stored : w.farEnd = .script (first :: replies)) (direct : w.farEnd.IsDirect)
    (reaches : client.Reaches listPath w.farEnd) (id : String) (given : Given) :
    let ended := runUpdate client id (typedFields given) w
    ∃ list : Request, list.Asks client "GET" listPath none ∧
      ∀ teachers r, Hop.listed? ⟨list, first⟩ = some teachers →
        teachers.find? (·.id == some (.ofString id)) = some r →
          Rewrites client (r.replacing (typedFields given)) (.ofString id) list
            (FarEnd.upcoming replies) (ended.2.since w).requests ended.1.exitCode := by
  intro ended
  obtain ⟨list, asks, sent, left, taken⟩ :=
    Controller.load_of_reply (c := .initial) stored direct once reaches
  refine ⟨list, asks, fun teachers r listed found => ?_⟩
  obtain ⟨loaded, collection⟩ := taken teachers listed
  have precedes := (Controller.leads_load client .initial w).precedes
  have course := runUpdate_of_loaded loaded id (typedFields given)
  generalize Controller.load client .initial w = loading at *
  -- the first record with the identifier is put into the form
  have find : loading.controller.find? (.ofString id) = some r := by
    rw [collection]
    exact found
  have known : r.id = some (.ofString id) := Controller.id_of_find? find
  simp only [Controller.beginEditById, find, Controller.beginEdit, typeFields_eq,
    fill_typedFields] at course
  let begun := loading.world.log (.editBegun (Controller.idText r.id))
  let edited : Controller := { loading.controller with
    draft := r.replacing (typedFields given), editing := true, formVisible := true }
  have further : (FarEnd.script replies).IsDirect := fun reply among =>
    (stored ▸ direct : FarEnd.IsDirect (.script (first :: replies))) reply
      (List.mem_cons_of_mem first among)
  have rest := rewrites_submit (w := begun) (c := edited) list rfl known left
    (show begun.farEnd.IsDirect from left ▸ further) once
    (Client.reaches_of_reaches parsed network (reaches.of_script left) _)
  have logged := World.silent_log loading.world (.editBegun (Controller.idText r.id))
  have after : begun.Precedes (endingOf (edited.submit client begun)).2 := by
    rw [world_endingOf]
    exact (Controller.leads_submit client edited begun).precedes
  have all : (ended.2.since w).requests =
      list :: ((endingOf (edited.submit client begun)).2.since begun).requests := by
    show ((runUpdate client id (typedFields given) w).2.since w).requests = _
    rw [course, World.since_trans precedes (logged.precedes.trans after),
      World.since_trans logged.precedes after, Journal.requests_append, Journal.requests_append,
      sent, Journal.requests_eq (begun.since _), logged.hops_since]
    rfl
  have exitCode : ended.1 = (endingOf (edited.submit client begun)).1 := congrArg Prod.fst course
  rw [all, exitCode]
  exact rest

end

/-! ### Runs -/

/-- A run gets as far as its command: its words make these arguments, and with them and what it reads
there are settings, a client and a place for the session. -/
structure Starts (words : List String) (environment : Config.Environment) (disk : Disk)
    (arguments : Arguments) (config : Config) (client : Client) : Prop where
  begins : ∃ known filter path,
    Config.VariableFile.loadNearest disk variableFiles environment = some known ∧
      Arguments.ofWords words known = .ok arguments ∧
      logFilter? (Dictionary.get? known filterVariable) .warn = some filter ∧
      settings arguments disk known = .ok config ∧ sessionPath config known = .ok path
  bound : Client.ofConfig config = .ok client

variable {words : List String} {environment : Config.Environment} {disk : Disk}
  {arguments : Arguments} {config : Config} {client : Client}

theorem validate_of_settings {known : Config.Environment}
    (settled : settings arguments disk known = .ok config) : config.validate = .ok () := by
  simp only [settings, bind, Except.bind] at settled
  split at settled
  · cases settled
  · split at settled
    · cases settled
    next made overridden =>
      cases checked : made.validate with
      | error e =>
        rw [checked] at settled
        cases settled
      | ok =>
        rw [checked] at settled
        cases settled
        exact checked

/-- What a run that gets as far as its command sends, and how it ends, is a matter of the command. -/
theorem Starts.run (starts : Starts words environment disk arguments config client)
    (farEnd : FarEnd) (input : String) (reasons : Store.Reasons) :
    ∃ (start : World) (coloured : Bool), start.farEnd = farEnd ∧ start.journal.requests = [] ∧
      let ended := runCommand client coloured arguments.token.isSome start arguments.command
      (Console.run words environment farEnd disk input reasons).requests =
          ended.2.journal.requests ∧
        (Console.run words environment farEnd disk input reasons).exitCode = ended.1.exitCode := by
  obtain ⟨known, filter, path, loads, called, filtered, settled, placed⟩ := starts.begins
  have run : Console.run words environment farEnd disk input reasons =
      runFiltered arguments filter known farEnd disk input reasons := by
    simp only [Console.run, loads, called, runArguments, filtered]
  rw [run, runFiltered_of_settled settled]
  simp only [runSettled, placed, starts.bound]
  exact ⟨_, _, rfl, rfl, rfl, rfl⟩

/-- An update by an identifier whose first record in the list is `r` sends the record with the given
texts in its fields, and all else as it was listed, unless that record may not be sent. Its requests
are the one for the list, the one for the record under its own address, and, if that one was
answered, one more for the list, whose reply makes no difference; it succeeds exactly if the record
was sent and answered. -/
theorem update_rewrites (starts : Starts words environment disk arguments config client)
    {id : String} {fields : TypedFields} (update : arguments.command = .update id fields)
    (once : config.maxRetries = 0) {first : Reply} {replies : List Reply}
    (direct : (FarEnd.script (first :: replies)).IsDirect)
    (reaches : client.Reaches listPath (.script (first :: replies))) (input : String)
    (reasons : Store.Reasons) :
    let transcript := run words environment (.script (first :: replies)) disk input reasons
    ∃ list : Request, list.Asks client "GET" listPath none ∧
      ∀ teachers r, Hop.listed? ⟨list, first⟩ = some teachers →
        teachers.find? (·.id == some (.ofString id)) = some r →
          Rewrites client (r.replacing fields) (.ofString id) list
            (replies.headD (.answer Http.notFound)) transcript.requests transcript.exitCode := by
  intro transcript
  obtain ⟨known, _, _, _, called, _, settled, _⟩ := starts.begins
  obtain ⟨given, rfl⟩ := fields_of_ofWords called update
  -- settings that were checked make a client of a network address, with the same retries
  obtain ⟨home, configured, http⟩ := config.validate_iff.mp (validate_of_settings settled)
  obtain ⟨client', path, query, fragment, accepted, parsed⟩ :=
    Client.ofConfig_of_valid configured http
  cases accepted.symm.trans starts.bound
  have single : client.maxRetries = 0 := by
    rw [Client.maxRetries_of_ofConfig starts.bound, once]
  obtain ⟨start, coloured, stored, silent, requests, exitCode⟩ :=
    starts.run (.script (first :: replies)) input reasons
  rw [update, runCommand] at requests exitCode
  obtain ⟨list, asks, course⟩ := rewrites_runUpdate parsed (Url.isNetwork_of_isHttp http) single
    stored (stored ▸ direct) (stored ▸ reaches) id given
  refine ⟨list, asks, fun teachers r listed found => ?_⟩
  have rewrites := course teachers r listed found
  have precedes := precedes_runUpdate client id (typedFields given) start
  obtain ⟨news, grown⟩ := precedes
  rw [World.since_eq grown] at rewrites
  rw [grown, Journal.requests_append, silent, List.nil_append] at requests
  show Rewrites _ _ _ _ _ (Console.run _ _ _ _ _ _).requests (Console.run _ _ _ _ _ _).exitCode
  rw [requests, exitCode]
  exact rewrites

/-- The words of a command that gives a record another name. -/
def renamingWords : List String :=
  ["--token", "t", "--session-file", "session.json", "update", "--id", "7", "--nombre", "Ana Paz"]

def renamingArguments : Arguments where
  config := none
  baseUrl := none
  timeoutSeconds := none
  sessionFile := some "session.json"
  token := some "t"
  plain := false
  jsonLogs := false
  command := .update "7" [(.name, "Ana Paz")]

def renamingClient : Client := ⟨"http://localhost:8081/api", 10000, "/login", 0⟩

theorem starts_renaming : Starts renamingWords [] ⟨[], []⟩ renamingArguments
    { Config.default with sessionFile := some "session.json" } renamingClient where
  begins := ⟨[], .upTo .warn, "session.json", rfl, rfl, rfl, by decide +kernel, rfl⟩
  bound := by decide +kernel

/-- A list of one record. -/
def listOfOne : Reply :=
  .answer ⟨200, [], ("[\x7b\"id\":7,\"identificacion\":\"12345678\",\"nombre\":\"Ana\"," ++
    "\"email\":\"ana@x.com\",\"especialidad\":\"Math\"\x7d]").toUTF8⟩

theorem listed?_listOfOne {list : Request} (asked : list.method = "GET") :
    Hop.listed? ⟨list, listOfOne⟩ =
      some [⟨some (.number 7), "12345678", "Ana", "ana@x.com", "Math"⟩] := by
  simp only [Hop.listed?, listOfOne, asked]
  decide +kernel

/-- A reply without content is an answer to every request. -/
theorem isAnswered_noContent (request : Request) :
    Hop.IsAnswered ⟨request, .answer ⟨204, [], .empty⟩⟩ := by
  refine ⟨⟨204, [], .empty⟩, ?_, rfl, Or.inl (Or.inl (by decide +kernel))⟩
  have stays : request.next? ⟨204, [], .empty⟩ = none := Http.next?_of_direct rfl request
  simp [Http.finalResponse?, Hop.turn, Http.Turn.of, stays, Http.Response.answering,
    Http.Response.isBodiless, Http.Outcome.complete?]

/-- The name is replaced, and all else is sent as it was listed. It does not matter that the list
cannot be read again. -/
theorem update_rewrites_renaming :
    ∃ (transcript : Transcript) (list put again : Request),
      transcript = run renamingWords []
        (.script [listOfOne, .answer ⟨204, [], .empty⟩, .drop]) ⟨[], []⟩ "" ∧
      transcript.exitCode = 0 ∧ transcript.requests = [list, put, again] ∧
      put.Asks renamingClient "PUT" "/docentes/7"
        (some (Teacher.json ⟨some (.number 7), "12345678", "Ana Paz", "ana@x.com", "Math"⟩)) := by
  have direct : (FarEnd.script [listOfOne, .answer ⟨204, [], .empty⟩, .drop]).IsDirect := by
    show ∀ reply ∈ [_, _, _], Reply.isRedirection reply = false
    decide
  have reaches : renamingClient.Reaches listPath
      (.script [listOfOne, .answer ⟨204, [], .empty⟩, .drop]) := ⟨_, rfl, rfl, rfl⟩
  obtain ⟨list, asks, course⟩ := update_rewrites starts_renaming rfl rfl direct reaches "" Store.noReasons
  have found : [(⟨some (.number 7), "12345678", "Ana", "ana@x.com", "Math"⟩ : Teacher)].find?
      (·.id == some (.ofString "7")) = some ⟨some (.number 7), "12345678", "Ana", "ana@x.com",
        "Math"⟩ := by decide
  have path : itemPath (.ofString "7") = "/docentes/7" := by decide
  obtain ⟨succeeds, put, again, requests, written⟩ :=
    (course _ _ (listed?_listOfOne asks.method) found).of_answered (by decide) isAnswered_noContent
  exact ⟨_, list, put, again, rfl, succeeds, requests, path ▸ written⟩

end Console

end TeacherRegistry
