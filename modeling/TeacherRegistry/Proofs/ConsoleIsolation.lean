import TeacherRegistry.Console.Run
import TeacherRegistry.Proofs.DiskWriting
import TeacherRegistry.Proofs.GivenTokens
import TeacherRegistry.Proofs.Retries
import TeacherRegistry.Proofs.Tokens

/-!
# Runs with a token of their own

A token among the options takes the place of the stored session. What the session file holds makes
no difference then to what a command does, with one exception: a validation looks into the file all
the same, before it asks the server and after. So two validations are alike exactly if their session
files can both be read, or both not for the same reason, and show the same profile.
-/

namespace TeacherRegistry

open Http (Hop Outcome)

namespace Session

variable {reasons : Store.Reasons}

/-- The profile as it is shown, empty if there is none, or else what is said about the error. -/
def shownUser (reasons : Store.Reasons) (store : Store) : Except String String :=
  match user store with
  | .error e => .error (e.message (reasons store e))
  | .ok profile => .ok ((profile.map Json.Value.text).getD "")

/-- What is said about a store that cannot be read, if it cannot. -/
def fault? (reasons : Store.Reasons) (store : Store) : Option String :=
  match isLoggedIn store with
  | .error e => some (e.message (reasons store e))
  | .ok _ => none

theorem shownUser_of_fault {store : Store} {message : String}
    (fault : fault? reasons store = some message) : shownUser reasons store = .error message := by
  unfold fault? isLoggedIn Store.get? at fault
  cases entries : store.entries with
  | ok d =>
    rw [entries] at fault
    cases fault
  | error e =>
    rw [entries] at fault
    cases fault
    unfold shownUser user Store.get?
    rw [entries]
    rfl

/-- Two stores that can both be read, or both not for the same reason, and that show the same profile,
or both none for the same reason. -/
structure ReadAlike (reasons : Store.Reasons) (store other : Store) : Prop where
  fault : fault? reasons other = fault? reasons store
  user : shownUser reasons other = shownUser reasons store

theorem reasons_validate (client : Client) (w : World) :
    (validate client w).2.reasons = w.reasons := by
  rw [validate_eq]
  exact client.reasons_request Json.Value.ofBytes? "GET" validatePath none (w.enter .validate)

/-- A validation never fails because of the store. -/
theorem transport_of_validate {client : Client} {w : World} {e : Error}
    (failed : (validate client w).1 = .error e) : ∃ cause, e = .transport cause := by
  rw [validate_eq] at failed
  unfold verdict at failed
  dsimp only at failed
  split at failed
  · cases failed
  · cases failed
  next cause _ _ => exact ⟨cause, (Except.error.inj failed).symm⟩

end Session

namespace Console

open World (Besides)

/-! ### Commands -/

section Commands

variable {client : Client} {coloured : Bool} {store : Store} {w : World}

theorem besides_endingOf {α : Type} {effect other : Controller.Effect α}
    (besides : effect.Besides store other) : Besides store (endingOf effect) (endingOf other) := by
  obtain ⟨given, rfl⟩ := besides
  obtain ⟨result, c, v⟩ := effect
  cases result <;> exact ⟨given, rfl⟩

theorem besides_prints (lines : List String) (given : w.Given) (store : Store) :
    (lines.foldl World.print w).Given ∧ lines.foldl World.print (w.withStore store) =
      (lines.foldl World.print w).withStore store := by
  induction lines generalizing w with
  | nil => exact ⟨given, rfl⟩
  | cons line rest ih =>
    have printed : (w.print line).Given := given
    exact ih printed

theorem besides_runList (filter : Option String) (given : w.Given) (store : Store) :
    Besides store (runList client coloured filter w)
      (runList client coloured filter (w.withStore store)) := by
  unfold runList
  refine (Controller.besides_load client .initial given store).elim fun result c v still => ?_
  cases result with
  | error e => exact ⟨still, rfl⟩
  | ok _ =>
    obtain ⟨printed, same⟩ :=
      besides_prints (table coloured (c.setFilter (filter.getD "")).filtered) still store
    exact ⟨printed, congrArg (Prod.mk _) same⟩

theorem besides_runUpdate (id : String) (fields : TypedFields) (given : w.Given) (store : Store) :
    Besides store (runUpdate client id fields w)
      (runUpdate client id fields (w.withStore store)) := by
  unfold runUpdate
  refine (Controller.besides_load client .initial given store).elim fun result c v still => ?_
  cases result with
  | error e => exact ⟨still, rfl⟩
  | ok _ =>
    simp only
    refine (c.besides_beginEditById (.ofString id) still store).elim fun result c v begun => ?_
    cases result with
    | error e => exact ⟨begun, rfl⟩
    | ok _ => exact besides_endingOf (Controller.besides_submit client _ begun store)

theorem besides_runDelete (id : String) (given : w.Given) (store : Store) :
    Besides store (runDelete client coloured id w)
      (runDelete client coloured id (w.withStore store)) := by
  unfold runDelete
  refine (Controller.besides_delete client .initial (.ofString id) given store).elim
    fun result c v still => ?_
  cases result with
  | error e => exact ⟨still, rfl⟩
  | ok outcome => cases outcome <;> exact ⟨still, rfl⟩

/-- What a validation prints in the end depends on the store by the profile that is shown. -/
theorem showUser_eq (coloured : Bool) (w : World) :
    showUser coloured w = match Session.shownUser w.reasons w.store with
      | .error message => (.error message, w)
      | .ok shown =>
        (.success, w.print (Style.boldGreen.render coloured "Sesión válida" ++ " " ++ shown)) := by
  unfold showUser Session.shownUser
  cases Session.user w.store <;> rfl

/-- A validation once the store has been read. -/
def askServer (client : Client) (coloured : Bool) (w : World) : Ending × World :=
  match Session.validate client w with
  | (.error e, w) => (.error (e.message w.reason), w)
  | (.ok false, w) => (.failure, w)
  | (.ok true, w) => showUser coloured w

/-- With a token a validation goes on whether a session is stored or not, if only the store can be
read. -/
theorem runValidate_eq (client : Client) (coloured : Bool) (w : World) :
    runValidate client coloured true w = match Session.fault? w.reasons w.store with
      | some message => (.error message, w)
      | none => askServer client coloured w := by
  unfold runValidate Session.fault?
  cases Session.isLoggedIn w.store with
  | error e => rfl
  | ok loggedIn => simp only [Bool.not_true, Bool.and_false, Bool.false_eq_true, if_false]; rfl

theorem besides_askServer (given : w.Given)
    (alike : Session.shownUser w.reasons store = Session.shownUser w.reasons w.store) :
    Besides store (askServer client coloured w)
      (askServer client coloured (w.withStore store)) := by
  obtain ⟨still, same⟩ := Session.besides_validate client given store
  have kept := Session.store_validate client given
  have told := Session.reasons_validate client w
  have failed : ∀ e, (Session.validate client w).1 = .error e → ∃ cause, e = .transport cause :=
    fun _ => Session.transport_of_validate
  unfold askServer
  rw [same]
  generalize Session.validate client w = validated at still kept told failed
  obtain ⟨verdict, v⟩ := validated
  cases verdict with
  | error e =>
    obtain ⟨cause, rfl⟩ := failed e rfl
    exact ⟨still, rfl⟩
  | ok holds =>
    cases holds with
    | false => exact ⟨still, rfl⟩
    | true =>
      -- the store is looked at only now, and the validation has left it as it was
      simp only at kept told ⊢
      have other : Session.shownUser (v.withStore store).reasons (v.withStore store).store =
          Session.shownUser v.reasons v.store := by
        show Session.shownUser v.reasons store = _
        rw [told, kept, alike]
      rw [showUser_eq, showUser_eq, other]
      cases Session.shownUser v.reasons v.store <;> exact ⟨still, rfl⟩

theorem besides_runValidate (given : w.Given)
    (alike : Session.ReadAlike w.reasons w.store store) :
    Besides store (runValidate client coloured true w)
      (runValidate client coloured true (w.withStore store)) := by
  have other : Session.fault? (w.withStore store).reasons (w.withStore store).store =
      Session.fault? w.reasons w.store := alike.fault
  rw [runValidate_eq, runValidate_eq, other]
  cases Session.fault? w.reasons w.store with
  | some message => exact ⟨given, rfl⟩
  | none => exact besides_askServer given alike.user

/-- Whether a command goes by the token that it finds, and does not get or give up a session. -/
def Command.goesByToken : Command → Bool
  | .list _ | .create _ | .update _ _ | .delete _ _ | .validate => true
  | .login _ _ | .guest | .logout => false

theorem besides_runCommand {command : Command} (goes : command.goesByToken = true)
    (given : w.Given) (alike : command = .validate → Session.ReadAlike w.reasons w.store store) :
    Besides store (runCommand client coloured true w command)
      (runCommand client coloured true (w.withStore store) command) := by
  unfold runCommand
  cases command with
  | list filter => exact besides_runList filter given store
  | create fields => exact besides_endingOf (Controller.besides_submit client _ given store)
  | update id fields => exact besides_runUpdate id fields given store
  | delete id yes => exact besides_runDelete id given store
  | validate => exact besides_runValidate given (alike rfl)
  | login username password => cases goes
  | guest => cases goes
  | logout => cases goes

end Commands

/-! ### Runs -/

/-- Everything that is seen of two runs is the same, but for the disks. -/
def Transcript.LooksLike (transcript other : Transcript) : Prop :=
  other = { transcript with disk := other.disk }

/-- Two runs that begin in the same way: they read the same variables, words and configuration. -/
structure BeginAlike (words : List String) (environment known : Config.Environment)
    (arguments : Arguments) (disk other : Disk) : Prop where
  loads : Config.VariableFile.loadNearest disk variableFiles environment = some known
  loads' : Config.VariableFile.loadNearest other variableFiles environment = some known
  called : Arguments.ofWords words known = .ok arguments
  configuration : other.read (arguments.config.getD Config.defaultFile) =
    disk.read (arguments.config.getD Config.defaultFile)

/-- The session files that two runs find are read alike, if the runs get as far as that. -/
def SessionsAlike (arguments : Arguments) (known : Config.Environment) (disk other : Disk)
    (reasons : Store.Reasons) : Prop :=
  ∀ config path, settings arguments disk known = .ok config →
    sessionPath config known = .ok path →
      Session.ReadAlike reasons (.file path disk) (.file path other)

variable {words : List String} {environment known : Config.Environment} {farEnd : Http.FarEnd}
  {disk other : Disk} {input : String} {reasons : Store.Reasons} {arguments : Arguments}

theorem BeginAlike.run (alike : BeginAlike words environment known arguments disk other)
    (farEnd : Http.FarEnd) (input : String) (reasons : Store.Reasons) :
    run words environment farEnd disk input reasons =
        runArguments arguments known farEnd disk input reasons ∧
      run words environment farEnd other input reasons =
        runArguments arguments known farEnd other input reasons := by
  unfold Console.run
  rw [alike.loads, alike.loads']
  simp only [alike.called]
  exact ⟨trivial, trivial⟩

theorem BeginAlike.settings (alike : BeginAlike words environment known arguments disk other) :
    settings arguments other known = settings arguments disk known := by
  unfold Console.settings Config.load Config.layers Config.readFile
  rw [alike.configuration]

theorem given_startingWorld {token : String} (given : arguments.token = some token)
    (farEnd : Http.FarEnd) (input : String) (store : Store) (reasons : Store.Reasons)
    (event : Log.Event) : ((startingWorld arguments farEnd input store reasons).log event).Given := by
  refine ⟨some token, ?_⟩
  show arguments.token.elim Credentials.stored _ = _
  rw [given]
  rfl

theorem besides_runSettled {token : String} (given : arguments.token = some token)
    (goes : arguments.command.goesByToken = true) (config : Config) (coloured : Bool)
    (farEnd : Http.FarEnd) (input : String)
    (alike : arguments.command = .validate → ∀ path, sessionPath config known = .ok path →
      Session.ReadAlike reasons (.file path disk) (.file path other)) :
    ∃ path, Besides (.file path other)
      (runSettled arguments config known coloured farEnd disk input reasons)
      (runSettled arguments config known coloured farEnd other input reasons) := by
  have start := fun path =>
    given_startingWorld given farEnd input (.file path disk) reasons (.configured config.display)
  unfold runSettled
  cases kept : sessionPath config known with
  | error e =>
    -- there is no place for a session file, and no command is run
    exact ⟨"", (start "").besides _⟩
  | ok path =>
    refine ⟨path, ?_⟩
    cases Client.ofConfig config with
    | error e => exact (start path).besides _
    | ok client =>
      rw [given]
      exact besides_runCommand goes (start path) fun validates => alike validates path kept

theorem looksLike_runFiltered {token : String} (given : arguments.token = some token)
    (goes : arguments.command.goesByToken = true) (filter : Log.Filter)
    (same : settings arguments other known = settings arguments disk known)
    (alike : arguments.command = .validate → SessionsAlike arguments known disk other reasons) :
    (runFiltered arguments filter known farEnd disk input reasons).LooksLike
      (runFiltered arguments filter known farEnd other input reasons) := by
  unfold runFiltered
  rw [same]
  cases settled : settings arguments disk known with
  | error problem =>
    simp only
    split <;> rfl
  | ok config =>
    obtain ⟨path, besides⟩ := besides_runSettled given goes config
      (isColoured (Dictionary.get? known "CLICOLOR_FORCE")) farEnd input
      fun validates path => alike validates config path settled
    simp only [besides.same]
    rfl

/-! ### A server that accepts everything -/

/-- The response of a server that accepts what it is asked and says nothing. -/
def accepted : Http.Response := ⟨200, [], .empty⟩

theorem exchange_accepted (room : Nat) (request : Http.Request)
    (sendable : Http.isSendable request.url = true) :
    (Http.exchange room (.script [.answer accepted]) request).outcome =
      .received request.url accepted true := by
  have turn : Http.Turn.of request accepted true =
      .ended (.received request.url accepted true) := by
    have stays : request.next? accepted = none := rfl
    have whole : accepted.answering request.method true = (accepted, true) := by
      unfold Http.Response.answering
      split <;> rfl
    simp only [Http.Turn.of, stays, whole]
  have sent : Http.send (.script [.answer accepted]) request =
      (.ended (.received request.url accepted true), .script [],
        [⟨request, .answer accepted⟩]) := by
    rw [Http.send, sendable]
    simp only [Bool.not_true, Bool.false_eq_true, if_false, Http.FarEnd.next, turn]
  cases room <;> rw [Http.exchange, sent]

theorem outcome_accepted {request : Http.Request} {w : World}
    (sendable : Http.isSendable request.url = true)
    (accepts : w.farEnd = .script [.answer accepted]) :
    ∃ url, (Client.attempt request w).1 = .received url accepted true := by
  obtain ⟨authorization, carried⟩ := Client.authorize_eq request w
  obtain ⟨remarks, _, same⟩ := Client.remarks_authorize request w
  have farEnd : (Client.authorize request w).2.farEnd = .script [.answer accepted] := by
    rw [same]
    exact accepts
  refine ⟨(Client.authorize request w).1.url, ?_⟩
  unfold Client.attempt
  simp only
  rw [farEnd]
  exact exchange_accepted _ _ (by rw [carried]; exact sendable)

/-- A validation at such a server succeeds. -/
theorem validate_accepted {client : Client} {w : World} {url : Url}
    (address : client.urlFor Session.validatePath = .ok url)
    (sendable : Http.isSendable (Http.Request.to "GET" url none).url = true)
    (accepts : w.farEnd = .script [.answer accepted]) :
    (Session.validate client w).1 = .ok true := by
  obtain ⟨final, outcome⟩ := outcome_accepted (w := w.enter .validate) sendable accepts
  have called :=
    Client.request_of_address Json.Value.ofBytes? "GET" none (w.enter .validate) address
  rw [Client.persist_of_final (by rw [outcome]; rfl)] at called
  simp only [outcome] at called
  have read : Client.readBody Json.Value.ofBytes? accepted = .ok none := by
    simp [Client.readBody, accepted, ByteArray.toList_empty]
  rw [Session.validate_eq, called]
  simp only [client.conclude_of_received "GET" url (show accepted.isSuccess = true from rfl) read]
  rfl

/-! ### What is seen of a validation -/

/-- What is seen of a command that has ended. -/
def Transcript.of (display : Display) (disk : Disk) (ended : Ending × World) : Transcript where
  exitCode := ended.1.exitCode
  output := display.output ended.2.journal
  errors := display.errors ended.2.journal ++
    match ended.1 with
    | .error message => errorLine display.coloured message
    | _ => ""
  logs := display.logLines ended.2.journal
  requests := ended.2.journal.requests
  disk := diskAfter disk ended.2.store

/-- How the journal of a run is shown. -/
def displayOf (arguments : Arguments) (filter : Log.Filter) (known : Config.Environment)
    (input : String) : Display where
  coloured := isColoured (Dictionary.get? known "CLICOLOR_FORCE")
  plain := arguments.plain
  interactive := arguments.command.confirmation input != .always true
  filter := if arguments.jsonLogs then filter else .off

theorem runFiltered_of_settled {filter : Log.Filter} {config : Config}
    (settled : settings arguments disk known = .ok config) :
    runFiltered arguments filter known farEnd disk input reasons =
      Transcript.of (displayOf arguments filter known input) disk
        (runSettled arguments config known (isColoured (Dictionary.get? known "CLICOLOR_FORCE"))
          farEnd disk input reasons) := by
  unfold runFiltered
  rw [settled]
  rfl

theorem errorLine_injective {coloured : Bool} {message message' : String}
    (same : errorLine coloured message = errorLine coloured message') : message = message' :=
  (String.append_right_inj _).mp ((String.append_left_inj _).mp same)

theorem output_print (display : Display) (w : World) (line : String) :
    display.output (w.print line).journal = display.output w.journal ++ (line ++ "\n") := by
  show String.join ((w.journal ++ [Entry.printed line]).map display.outputText) = _
  rw [List.map_append, String.join_append, List.map_singleton, String.join_cons, String.join_nil,
    String.append_empty]
  rfl

/-- What is seen of the end of a validation tells the profile that is shown, or the reason why none
is. -/
theorem shownUser_of_looksLike {display : Display} {disk disk' : Disk} {v v' : World}
    (journal : v'.journal = v.journal)
    (looks : (Transcript.of display disk (showUser display.coloured v)).LooksLike
      (Transcript.of display disk' (showUser display.coloured v'))) :
    Session.shownUser v'.reasons v'.store = Session.shownUser v.reasons v.store := by
  have exitCode := congrArg Transcript.exitCode looks
  have output := congrArg Transcript.output looks
  have errors := congrArg Transcript.errors looks
  simp only [Transcript.of, showUser_eq] at exitCode output errors
  cases one : Session.shownUser v.reasons v.store with
  | ok shown =>
    cases two : Session.shownUser v'.reasons v'.store with
    | ok shown' =>
      simp only [one, two, output_print, journal] at output
      have lines := (String.append_left_inj _).mp ((String.append_right_inj _).mp output)
      rw [(String.append_right_inj _).mp lines]
    | error e' =>
      simp only [one, two] at exitCode
      cases exitCode
  | error message =>
    cases two : Session.shownUser v'.reasons v'.store with
    | ok shown' =>
      simp only [one, two] at exitCode
      cases exitCode
    | error message' =>
      simp only [one, two, journal] at errors
      rw [errorLine_injective ((String.append_right_inj _).mp errors)]

theorem requests_showUser (coloured : Bool) (w : World) :
    (showUser coloured w).2.journal.requests = w.journal.requests := by
  rw [showUser_eq]
  cases Session.shownUser w.reasons w.store with
  | error e => rfl
  | ok shown =>
    show Journal.requests (w.journal ++ [_]) = _
    rw [Journal.requests_append]
    exact List.append_nil _

/-- At a server that accepts everything a validation asks it and then shows the stored profile. -/
theorem askServer_accepted {client : Client} {w : World} {url : Url} (coloured : Bool)
    (store : Store) (address : client.urlFor Session.validatePath = .ok url)
    (sendable : Http.isSendable (Http.Request.to "GET" url none).url = true)
    (accepts : w.farEnd = .script [.answer accepted]) (given : w.Given) :
    ∃ v : World, v.store = w.store ∧ v.reasons = w.reasons ∧
      v.journal.requests ≠ w.journal.requests ∧
      askServer client coloured w = showUser coloured v ∧
      askServer client coloured (w.withStore store) = showUser coloured (v.withStore store) := by
  have holds := validate_accepted address sendable accepts
  have kept := Session.store_validate client given
  have told := Session.reasons_validate client w
  obtain ⟨_, same⟩ := Session.besides_validate client given store
  obtain ⟨news, proceeds⟩ :=
    client.request_proceeds Json.Value.ofBytes? "GET" none (w.enter .validate) address
  have asks : (Session.validate client w).2.journal.requests ≠ w.journal.requests := by
    intro none
    -- the request gets to the server, so it cannot be that nothing was sent
    have history : (w.enter .validate).journal = w.journal := rfl
    rw [Session.journal_validate, proceeds.grown, history, Journal.requests_append,
      List.append_right_eq_self, Journal.requests_eq, List.map_eq_nil_iff] at none
    have first := proceeds.first
    have server : (w.enter .validate).farEnd = .script [.answer accepted] := accepts
    rw [none, Http.Request.reaches, sendable, server] at first
    cases first
  unfold askServer
  rw [same]
  generalize Session.validate client w = validated at holds kept told asks
  obtain ⟨verdict, v⟩ := validated
  cases holds
  exact ⟨v, kept, told, asks, rfl, rfl⟩

theorem readAlike_of_looksLike {client : Client} {w : World} {store : Store} {url : Url}
    {display : Display} {disk disk' : Disk}
    (address : client.urlFor Session.validatePath = .ok url)
    (sendable : Http.isSendable (Http.Request.to "GET" url none).url = true)
    (accepts : w.farEnd = .script [.answer accepted]) (given : w.Given)
    (looks : (Transcript.of display disk (runValidate client display.coloured true w)).LooksLike
      (Transcript.of display disk'
        (runValidate client display.coloured true (w.withStore store)))) :
    Session.ReadAlike w.reasons w.store store := by
  obtain ⟨v, kept, told, asks, one, two⟩ :=
    askServer_accepted display.coloured store address sendable accepts given
  have other : (w.withStore store).store = store := rfl
  have reasons : (w.withStore store).reasons = w.reasons := rfl
  rw [runValidate_eq, runValidate_eq, other, reasons] at looks
  cases fault : Session.fault? w.reasons w.store with
  | none =>
    cases fault' : Session.fault? w.reasons store with
    | none =>
      rw [fault, fault'] at looks
      simp only [one, two] at looks
      refine ⟨by rw [fault, fault'], ?_⟩
      rw [← kept, ← told]
      have journal : (v.withStore store).journal = v.journal := rfl
      exact shownUser_of_looksLike journal looks
    | some message' =>
      -- only the run that can read its session file asks the server
      have requests := congrArg Transcript.requests looks
      simp only [Transcript.of, fault, fault', one, requests_showUser] at requests
      exact absurd requests.symm asks
  | some message =>
    cases fault' : Session.fault? w.reasons store with
    | none =>
      have requests := congrArg Transcript.requests looks
      simp only [Transcript.of, fault, fault', two, requests_showUser] at requests
      exact absurd requests asks
    | some message' =>
      have errors := congrArg Transcript.errors looks
      simp only [Transcript.of, fault, fault'] at errors
      have same := errorLine_injective ((String.append_right_inj _).mp errors)
      rw [same] at fault'
      exact ⟨by rw [fault, fault'], by
        rw [Session.shownUser_of_fault fault, Session.shownUser_of_fault fault']⟩

/-- Nothing keeps the validation of a run from being sent: the run does not break off, and there is
an address that can be requested. -/
def Sends (arguments : Arguments) (known : Config.Environment) (disk : Disk) : Prop :=
  ∃ filter config client url,
    logFilter? (Dictionary.get? known filterVariable) .warn = some filter ∧
    settings arguments disk known = .ok config ∧ Client.ofConfig config = .ok client ∧
    client.urlFor Session.validatePath = .ok url ∧
    Http.isSendable (Http.Request.to "GET" url none).url = true

theorem runSettled_validate {token : String} {config : Config} {coloured : Bool} {path : String}
    {client : Client} (given : arguments.token = some token)
    (validates : arguments.command = .validate) (kept : sessionPath config known = .ok path)
    (accepted : Client.ofConfig config = .ok client) :
    runSettled arguments config known coloured farEnd disk input reasons =
      runValidate client coloured true
        ((startingWorld arguments farEnd input (.file path disk) reasons).log
          (.configured config.display)) := by
  unfold runSettled
  rw [kept, accepted, given, validates]
  rfl

/-- With a token of its own a run does not depend on the session file, except that a validation
depends on whether the file can be read, or else the reason why not, and on the profile in it. -/
theorem token_isolates {token : String}
    (begins : BeginAlike words environment known arguments disk other)
    (given : arguments.token = some token) (goes : arguments.command.goesByToken = true) :
    ((arguments.command = .validate → SessionsAlike arguments known disk other reasons) →
      ∀ farEnd input, (run words environment farEnd disk input reasons).LooksLike
        (run words environment farEnd other input reasons)) ∧
    (arguments.command = .validate → Sends arguments known disk →
      (∀ farEnd input, (run words environment farEnd disk input reasons).LooksLike
        (run words environment farEnd other input reasons)) →
      SessionsAlike arguments known disk other reasons) := by
  constructor
  · intro alike farEnd input
    obtain ⟨one, two⟩ := begins.run farEnd input reasons
    rw [one, two, runArguments, runArguments]
    cases logFilter? (Dictionary.get? known filterVariable) .warn with
    | none => rfl
    | some filter => exact looksLike_runFiltered given goes filter begins.settings alike
  · intro validates sends looks config path settled kept
    obtain ⟨filter, found, client, url, filtered, settled', bound, address, sendable⟩ := sends
    obtain rfl : config = found := Except.ok.inj (settled.symm.trans settled')
    -- a server that accepts the token brings everything to light that a validation looks at
    have seen := looks (.script [.answer accepted]) ""
    obtain ⟨one, two⟩ := begins.run (.script [.answer accepted]) "" reasons
    rw [one, two, runArguments, runArguments, filtered] at seen
    simp only at seen
    rw [runFiltered_of_settled settled, runFiltered_of_settled (begins.settings.trans settled),
      runSettled_validate given validates kept bound,
      runSettled_validate given validates kept bound] at seen
    exact readAlike_of_looksLike address sendable rfl (given_startingWorld given ..) seen

/-- The words of a validation with a token and a session file. -/
def validateWords : List String :=
  ["--token", "t", "--session-file", "session.json", "--base-url", "http://127.0.0.1", "validate"]

def validateArguments : Arguments where
  config := none
  baseUrl := some "http://127.0.0.1"
  timeoutSeconds := none
  sessionFile := some "session.json"
  token := some "t"
  plain := false
  jsonLogs := false
  command := .validate

theorem begins_validate (content other : String) :
    BeginAlike validateWords [] [] validateArguments (Disk.sessionDisk content.toUTF8)
      (Disk.sessionDisk other.toUTF8) where
  loads := rfl
  loads' := rfl
  called := rfl
  configuration := rfl

/-- Which token is stored makes no difference to a validation with a token of its own. -/
theorem token_isolates_storedToken :
    (run validateWords [] .unreachable
        (Disk.sessionDisk "\x7b\"token\":\"a\"\x7d".toUTF8) "").LooksLike
      (run validateWords [] .unreachable
        (Disk.sessionDisk "\x7b\"token\":\"b\"\x7d".toUTF8) "") := by
  have begins := begins_validate "\x7b\"token\":\"a\"\x7d" "\x7b\"token\":\"b\"\x7d"
  have given : validateArguments.token = some "t" := rfl
  refine (token_isolates begins given rfl).1 ?_ .unreachable ""
  intro _ config path settled kept
  have found : (settings validateArguments
      (Disk.sessionDisk "\x7b\"token\":\"a\"\x7d".toUTF8) []).toOption.bind (fun config =>
        (sessionPath config []).toOption) = some "session.json" := by rfl
  rw [settled, Except.toOption, Option.bind_some, kept] at found
  cases found
  exact ⟨rfl, rfl⟩

/-- A session file that cannot be understood ends a validation that has a token of its own. -/
theorem corrupt_session_noticed :
    ¬ ∀ (words : List String) (environment known : Config.Environment) (arguments : Arguments)
      (disk other : Disk) (token : String),
      BeginAlike words environment known arguments disk other → arguments.token = some token →
        arguments.command.goesByToken = true → ∀ farEnd input reasons,
          (run words environment farEnd disk input reasons).LooksLike
            (run words environment farEnd other input reasons) := by
  intro always
  let server : Http.FarEnd := .script [.answer accepted]
  -- the reason given for the text, though the exit codes differ with any
  let reasons : Store.Reasons := fun _ _ => "expected ident at line 1 column 2"
  have looks := always validateWords [] [] validateArguments _ _ "t"
    (begins_validate "" "nonsense") rfl rfl server "" reasons
  have succeeds :
      (run validateWords [] server (Disk.sessionDisk "".toUTF8) "" reasons).exitCode = 0 := by
    decide +kernel
  have fails :
      (run validateWords [] server (Disk.sessionDisk "nonsense".toUTF8) "" reasons).exitCode = 1 :=
    rfl
  have same := congrArg Transcript.exitCode looks
  simp only [succeeds, fails] at same
  cases same

/-! ### What is left behind -/

theorem disk_runFiltered {token : String} (given : arguments.token = some token)
    (goes : arguments.command.goesByToken = true) (filter : Log.Filter) :
    (runFiltered arguments filter known farEnd disk input reasons).disk = disk := by
  unfold runFiltered
  cases settled : settings arguments disk known with
  | error problem =>
    simp only
    split <;> rfl
  | ok config =>
    -- the run next to itself: it comes to the same with the store that it has
    let ended := runSettled arguments config known
      (isColoured (Dictionary.get? known "CLICOLOR_FORCE")) farEnd disk input reasons
    have besides : ∃ path, Besides (.file path disk) ended ended :=
      besides_runSettled given goes config _ farEnd input fun _ _ _ => ⟨rfl, rfl⟩
    obtain ⟨path, besides⟩ := besides
    show diskAfter disk ended.2.store = disk
    rw [besides.store_eq]
    rfl

/-- A run with a token of its own leaves the disk as it is, and so the session file, whatever the
server replies and whatever the file holds. -/
theorem token_spares_disk
    (called : ∀ known, Config.VariableFile.loadNearest disk variableFiles environment = some known →
      ∃ arguments token, Arguments.ofWords words known = .ok arguments ∧
        arguments.token = some token ∧ arguments.command.goesByToken = true) :
    ∀ farEnd input reasons, (run words environment farEnd disk input reasons).disk = disk := by
  intro farEnd input reasons
  unfold run
  cases loads : Config.VariableFile.loadNearest disk variableFiles environment with
  | none => rfl
  | some known =>
    obtain ⟨arguments, token, words, given, goes⟩ := called known loads
    simp only [words, runArguments]
    cases logFilter? (Dictionary.get? known filterVariable) .warn with
    | none => rfl
    | some filter => exact disk_runFiltered given goes filter

/-- The words that list the records with a token and a session file. -/
def listWords : List String :=
  ["--token", "t", "--session-file", "session.json", "--base-url", "http://127.0.0.1", "list"]

/-- A listing whose token is refused fails, and leaves a session file that is beyond reading. -/
theorem token_spares_disk_refused :
    let refusing : Http.FarEnd := .script [.answer ⟨401, [], .empty⟩]
    let transcript := run listWords [] refusing (Disk.sessionDisk "nonsense".toUTF8) ""
    transcript.exitCode = 1 ∧ transcript.requests.length = 1 ∧
      transcript.disk = Disk.sessionDisk "nonsense".toUTF8 := by
  have called : ∀ known, Config.VariableFile.loadNearest (Disk.sessionDisk "nonsense".toUTF8)
      variableFiles [] = some known → ∃ arguments token, Arguments.ofWords listWords known =
        .ok arguments ∧ arguments.token = some token ∧ arguments.command.goesByToken = true := by
    intro known loads
    cases loads
    exact ⟨{ validateArguments with command := .list none }, "t", rfl, rfl, rfl⟩
  exact ⟨by decide +kernel, by decide +kernel, token_spares_disk called _ _ _⟩

end Console

end TeacherRegistry
