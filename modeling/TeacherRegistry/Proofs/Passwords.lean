import TeacherRegistry.Proofs.ConsoleIsolation
import TeacherRegistry.Proofs.HiddenBodies
import TeacherRegistry.Proofs.PasswordVariable

/-!
# Where a password goes

A login puts the password into the body of its request. Nothing else that is seen of the run
depends on it, be it given among the words or by its variable: two logins with different passwords
end, print, log, store and ask the same. The exception is a file of variables, which may copy the
password into another variable; so the variables in effect must be the same but for the password.
-/

namespace TeacherRegistry

namespace Console

variable {words words' : List String} {environment environment' known known' : Config.Environment}
  {farEnd : Http.FarEnd} {disk : Disk} {input : String} {reasons : Store.Reasons}
  {arguments : Arguments} {username password password' : String}

/-! ### What is seen of a history -/

/-- What is seen of a run, but for the bodies of requests. -/
def Transcript.withoutBodies (transcript : Transcript) : Transcript :=
  { transcript with requests := transcript.requests.map Http.Request.withoutBody }

theorem Transcript.errors_withoutBodies (transcript : Transcript) :
    transcript.withoutBodies.errors = transcript.errors := rfl

/-- No body is printed, logged or stored. -/
theorem of_withoutBodies (display : Display) (disk : Disk) (ended : Ending × World) :
    (Transcript.of display disk ended).withoutBodies =
      Transcript.of display disk (ended.1, ended.2.withoutBodies) := by
  have journal : ended.2.withoutBodies.journal = ended.2.journal.withoutBodies := rfl
  have store : ended.2.withoutBodies.store = ended.2.store := rfl
  have output : display.output ended.2.journal.withoutBodies = display.output ended.2.journal :=
    congrArg String.join (ended.2.journal.map_withoutBodies fun _ => rfl)
  have errors : display.errors ended.2.journal.withoutBodies = display.errors ended.2.journal :=
    congrArg String.join (ended.2.journal.map_withoutBodies fun _ => rfl)
  simp only [Transcript.withoutBodies, Transcript.of, journal, store, output, errors,
    Display.logLines, Journal.events_withoutBodies, Journal.requests_withoutBodies]

/-! ### Logins -/

/-- The same arguments with a login for their command. -/
def Arguments.login (arguments : Arguments) (username password : String) : Arguments :=
  { arguments with command := .login username password }

/-- Two logins are called alike but for the password, and the variables in effect are the same but
for its text. -/
structure LoginsAlike (words words' : List String)
    (environment environment' known known' : Config.Environment) (arguments : Arguments)
    (username password password' : String) (disk : Disk) : Prop where
  loads : Config.VariableFile.loadNearest disk variableFiles environment = some known
  loads' : Config.VariableFile.loadNearest disk variableFiles environment' = some known'
  called : Arguments.ofWords words known = .ok (arguments.login username password)
  called' : Arguments.ofWords words' known' = .ok (arguments.login username password')
  inEffect : known'.withoutPassword = known.withoutPassword

section InEffect

variable (inEffect : known'.withoutPassword = known.withoutPassword)

include inEffect

/-- A variable that gives no option has the same text for both logins. -/
theorem plain_eq {name : String} (plain : name ∈ Config.plainVariables) :
    Dictionary.get? known' name = Dictionary.get? known name := by
  rw [← Config.get?_withoutPassword known' plain, inEffect, Config.get?_withoutPassword known plain]

theorem settings_login : settings (arguments.login username password') disk known' =
    settings (arguments.login username password) disk known := by
  unfold settings
  rw [Config.load_of_withoutPassword inEffect]
  rfl

theorem sessionPath_eq (config : Config) :
    sessionPath config known' = sessionPath config known := by
  unfold sessionPath dataDirectory?
  rw [plain_eq inEffect (by decide), plain_eq inEffect (by decide)]

theorem displayOf_login (filter : Log.Filter) :
    displayOf (arguments.login username password') filter known' input =
      displayOf (arguments.login username password) filter known input := by
  unfold displayOf
  rw [plain_eq inEffect (by decide)]
  rfl

end InEffect

/-- Two ends of a command are the same but for the bodies of requests. -/
def SameButBodies (ended ended' : Ending × World) : Prop :=
  ended'.1 = ended.1 ∧ ended'.2.withoutBodies = ended.2.withoutBodies

theorem sameButBodies_greet (coloured : Bool) (greeting : String)
    {outcome outcome' : Except Session.Error Json.Value × World} (same : outcome'.1 = outcome.1)
    (bare : outcome'.2.withoutBodies = outcome.2.withoutBodies) :
    SameButBodies (greet coloured greeting outcome) (greet coloured greeting outcome') := by
  obtain ⟨result, w⟩ := outcome
  obtain ⟨result', w'⟩ := outcome'
  obtain rfl : result' = result := same
  cases result' with
  | error e =>
    have reason : w'.reason = w.reason := by
      rw [← w'.reason_withoutBodies, bare, w.reason_withoutBodies]
    exact ⟨congrArg (fun given => Ending.error (e.message given)) reason, bare⟩
  | ok profile =>
    refine ⟨rfl, ?_⟩
    show (World.record w' _).withoutBodies = (World.record w _).withoutBodies
    rw [World.record_withoutBodies, World.record_withoutBodies, bare]

theorem sameButBodies_login (inEffect : known'.withoutPassword = known.withoutPassword)
    (config : Config) (coloured : Bool) :
    SameButBodies
      (runSettled (arguments.login username password) config known coloured farEnd disk input
        reasons)
      (runSettled (arguments.login username password') config known' coloured farEnd disk input
        reasons) := by
  unfold runSettled
  rw [sessionPath_eq inEffect]
  cases sessionPath config known with
  | error e => exact ⟨rfl, rfl⟩
  | ok path =>
    cases Client.ofConfig config with
    | error e => exact ⟨rfl, rfl⟩
    | ok client =>
      obtain ⟨same, bare⟩ := Session.login_withoutBody client
        ((startingWorld (arguments.login username password) farEnd input (.file path disk)
          reasons).log (.configured config.display)) username password password'
      exact sameButBodies_greet coloured "Sesión iniciada:" same bare

theorem runFiltered_login (inEffect : known'.withoutPassword = known.withoutPassword)
    (filter : Log.Filter) :
    (runFiltered (arguments.login username password') filter known' farEnd disk input
        reasons).withoutBodies =
      (runFiltered (arguments.login username password) filter known farEnd disk input
        reasons).withoutBodies := by
  have coloured : Dictionary.get? known' "CLICOLOR_FORCE" =
      Dictionary.get? known "CLICOLOR_FORCE" := plain_eq inEffect (by decide)
  have same : settings (arguments.login username password') disk known' =
      settings (arguments.login username password) disk known := settings_login inEffect
  cases settled : settings (arguments.login username password) disk known with
  | error problem =>
    -- neither run gets as far as the password
    unfold runFiltered
    rw [same, settled, coloured]
  | ok config =>
    rw [runFiltered_of_settled (same.trans settled), runFiltered_of_settled settled,
      of_withoutBodies, of_withoutBodies, displayOf_login inEffect, coloured]
    obtain ⟨ending, bare⟩ := sameButBodies_login inEffect config
      (isColoured (Dictionary.get? known "CLICOLOR_FORCE"))
    rw [ending, bare]

/-- Two logins that differ in their passwords only end, print, log, store and ask the same: only the
bodies of the requests tell the passwords apart. -/
theorem password_only_in_bodies
    (alike : LoginsAlike words words' environment environment' known known' arguments username
      password password' disk) :
    ∀ farEnd input reasons, (run words' environment' farEnd disk input reasons).withoutBodies =
      (run words environment farEnd disk input reasons).withoutBodies := by
  intro farEnd input reasons
  have filtered : Dictionary.get? known' filterVariable = Dictionary.get? known filterVariable :=
    plain_eq alike.inEffect (by decide)
  unfold run runArguments
  rw [alike.loads, alike.loads']
  simp only [alike.called, alike.called', filtered]
  cases logFilter? (Dictionary.get? known filterVariable) .warn with
  | none => rfl
  | some filter => exact runFiltered_login alike.inEffect filter

/-- A login by these words finds its password in the variable. -/
def loginWords : List String := ["login", "-u", "ana"]

def noOptions : Arguments where
  config := none
  baseUrl := none
  timeoutSeconds := none
  sessionFile := none
  token := none
  plain := false
  jsonLogs := false
  command := .guest

/-- An environment with nothing but a password. -/
def passwordIs (password : String) : Config.Environment := [(Config.passwordVariable, password)]

/-- Two logins by the variable: what is sent to the server tells the password, and nothing else
does. -/
theorem password_only_in_bodies_variable :
    let words :=
      ["--session-file", "session.json", "--base-url", "http://127.0.0.1"] ++ loginWords
    let transcript := fun password => run words (passwordIs password)
      (.script [.answer accepted]) (Disk.sessionDisk .empty) ""
    (transcript "b").requests.map Http.Request.body = [Session.loginBody "ana" "b"] ∧
      (transcript "b").withoutBodies = (transcript "a").withoutBodies := by
  intro words transcript
  let arguments : Arguments :=
    { noOptions with sessionFile := some "session.json", baseUrl := some "http://127.0.0.1" }
  have alike : LoginsAlike words words (passwordIs "a") (passwordIs "b") (passwordIs "a")
      (passwordIs "b") arguments "ana" "a" "b" (Disk.sessionDisk .empty) :=
    ⟨rfl, rfl, rfl, rfl, rfl⟩
  exact ⟨by decide +kernel, password_only_in_bodies alike _ _ _⟩

end Console

/-! ### Copies of the password -/

namespace Text

/-- An opening brace is neither a letter nor a number. -/
theorem isAlphanumeric_brace : isAlphanumeric '{' = false := by
  rw [isAlphanumeric, inTable, ← Bool.not_eq_true', List.not_any_eq_all_not]
  -- the table is checked line by line, as it is too long to be checked in one piece
  unfold alphanumericRanges
  repeat refine all_numberTable_cons rfl (by decide +kernel) ?_
  exact all_numberTable_nil _

end Text

namespace Config.VariableFile

/-- A name in braces is replaced by the text of its variable. -/
theorem readValue?_braced (environment : Environment) (weak : Bool) {name : List Char}
    (closed : '}' ∉ name) (rest : List Char) :
    readValue? environment (.text weak) ('$' :: '{' :: (name ++ '}' :: rest)) =
      (readValue? environment (.text weak) rest).map (substitute environment name ++ ·) := by
  -- the name is collected up to the brace that closes it
  suffices inName : ∀ before, readValue? environment (.variable weak true before)
      (name ++ '}' :: rest) =
        (readValue? environment (.text weak) rest).map
          (substitute environment (before ++ name) ++ ·) by
    have dollar : readValueChar? environment (.text weak) '$' =
        some (.variable weak false [], []) := by
      rw [readValueChar?, if_pos rfl]
    have brace : readValueChar? environment (.variable weak false []) '{' =
        some (.variable weak true [], []) := by
      rw [readValueChar?, Text.isAlphanumeric_brace, if_neg Bool.false_ne_true, if_pos ⟨rfl, rfl⟩]
    rw [readValue?, dollar]
    simp only
    rw [readValue?, brace]
    simp only [inName [], List.nil_append, Option.map_id']
  induction name with
  | nil =>
    intro before
    have read : readValueChar? environment (.variable weak true before) '}' =
        some (.text weak, substitute environment before) := by
      rw [readValueChar?, if_pos rfl]
    rw [List.nil_append, List.append_nil, readValue?, read]
  | cons c later ih =>
    intro before
    have here : c ≠ '}' := fun same => closed (same ▸ List.mem_cons_self)
    have read : readValueChar? environment (.variable weak true before) c =
        some (.variable weak true (before ++ [c]), []) := by
      rw [readValueChar?, if_neg here]
    rw [List.cons_append, readValue?, read]
    simp only [ih (fun member => closed (List.mem_cons_of_mem c member)), List.append_assoc,
      List.singleton_append, List.nil_append, Option.map_id']

end Config.VariableFile

namespace Console

open Config.VariableFile

variable {words : List String} {environment known : Config.Environment} {farEnd : Http.FarEnd}
  {disk : Disk} {input : String} {reasons : Store.Reasons} {arguments : Arguments}
  {password : String}

/-- A disk with a file of variables. -/
def variableDisk (text : String) : Disk :=
  ⟨[("work", .directory [(".env", .file text.toUTF8)])], ["work"]⟩

theorem loadNearest_variableDisk (text : String) (environment : Config.Environment) :
    loadNearest (variableDisk text) variableFiles environment = load environment text := by
  have spelled : String.fromUTF8? text.toUTF8 = some text := by
    simp [String.fromUTF8?, String.toUTF8, text.isValidUTF8, String.fromUTF8]
  have node : (variableDisk text).node? (["work"] ++ [".env"]) = some (.file text.toUTF8) := rfl
  have first : nearest? (variableDisk text) ".env" ["work"] = some text := by
    have above : ((List.range (["work"].length + 1)).map fun n =>
        ["work"].take (["work"].length - n)) = [["work"], []] := rfl
    unfold nearest?
    simp only [above, List.findSome?_cons, node, spelled]
  have second : nearest? (variableDisk text) ".env.linux" ["work"] = none := rfl
  have directory : (variableDisk text).workingDirectory = ["work"] := rfl
  simp only [loadNearest, variableFiles, List.foldlM_cons, List.foldlM_nil, directory, first,
    second]
  exact bind_pure _

/-- A line that takes the password for the address of the server. -/
def copyingLine : String := "EDUDATA_BASE_URL=$\x7bEDUDATA_PASSWORD\x7d"

/-- The variables in effect when the password has been copied. -/
def copying (password : String) : Config.Environment :=
  passwordIs password ++ [("EDUDATA_BASE_URL", password)]

theorem readLine?_copyingLine (password : String) :
    readLine? (passwordIs password) copyingLine.toList =
      some (some ("EDUDATA_BASE_URL", password)) := by
  let copy := '$' :: '{' :: ("EDUDATA_PASSWORD".toList ++ ['}'])
  have trimmed : Text.trimBoth Text.isBlankChar copyingLine.toList = copyingLine.toList := by
    decide +kernel
  have line : copyingLine.toList.head?.all (· == '#') = false := by decide +kernel
  have named : readName? copyingLine.toList = some ("EDUDATA_BASE_URL".toList, copy) := by
    decide +kernel
  have direct : copy.dropWhile Text.isBlankChar = copy := List.dropWhile_cons_of_neg (by decide)
  have filled : copy.head?.all (· == '#') = false := rfl
  have value : readValue? (passwordIs password) (.text false) copy = some password.toList := by
    have closed : '}' ∉ "EDUDATA_PASSWORD".toList := by decide
    rw [readValue?_braced (passwordIs password) false closed []]
    exact congrArg some (List.append_nil _)
  unfold readLine?
  simp only [trimmed, line, named, direct, filled, value, Bool.false_eq_true, if_false,
    Option.map_some, String.ofList_toList]

theorem load_copyingLine (plain : '\x00' ∉ password.toList) :
    load (passwordIs password) copyingLine = some (copying password) := by
  have lines : joinLines .plain [] (breakLines copyingLine.toList) = [some copyingLine.toList] := by
    decide +kernel
  have unset : Dictionary.get? (passwordIs password) "EDUDATA_BASE_URL" = none := rfl
  have settable : password.toList.contains '\x00' = false := by simpa using plain
  have first : copyingLine.toList.head? = some 'E' := rfl
  unfold load
  split
  -- no byte order mark is in front of the line
  next rest marked =>
    rw [marked] at first
    cases first
  · simp only [lines, setAll, readLine?_copyingLine, unset, settable]
    rfl

theorem loads_copying (plain : '\x00' ∉ password.toList) :
    loadNearest (variableDisk copyingLine) variableFiles (passwordIs password) =
      some (copying password) :=
  (loadNearest_variableDisk copyingLine _).trans (load_copyingLine plain)

/-- What is told of a password that is no address. -/
def relative (password : String) : Problem :=
  .loading (.invalidBaseUrl password "relative URL without a base")

/-- All that is seen of a run that has no settings. -/
theorem run_of_problem {filter : Log.Filter} {problem : Problem}
    (loads : loadNearest disk variableFiles environment = some known)
    (called : Arguments.ofWords words known = .ok arguments)
    (filtered : logFilter? (Dictionary.get? known filterVariable) .warn = some filter)
    (broken : settings arguments disk known = .error problem) (told : problem.isCrash = false) :
    run words environment farEnd disk input reasons =
      ⟨1, "", errorLine (isColoured (Dictionary.get? known "CLICOLOR_FORCE")) problem.message, [],
        [], disk⟩ := by
  unfold run runArguments runFiltered
  rw [loads]
  simp only [called, filtered, broken, told, Bool.false_eq_true, if_false]

theorem errors_copying (plain : '\x00' ∉ password.toList)
    (called : Arguments.ofWords loginWords (copying password) =
      .ok (noOptions.login "ana" password))
    (broken : settings (noOptions.login "ana" password) (variableDisk copyingLine)
      (copying password) = .error (relative password)) :
    (run loginWords (passwordIs password) .unreachable (variableDisk copyingLine) "").errors =
      errorLine false (relative password).message := by
  have unset : logFilter? (Dictionary.get? (copying password) filterVariable) .warn =
      some (.upTo .warn) := rfl
  rw [run_of_problem (loads_copying plain) called unset broken rfl]
  rfl

/-- With a file of variables that copies the password, two logins in environments that are the same
but for its text may tell it. -/
theorem copied_password_shown :
    ¬ ∀ (words : List String) (environment environment' known known' : Config.Environment)
      (arguments : Arguments) (username password password' : String) (disk : Disk),
      loadNearest disk variableFiles environment = some known →
      loadNearest disk variableFiles environment' = some known' →
      Arguments.ofWords words known = .ok (arguments.login username password) →
      Arguments.ofWords words known' = .ok (arguments.login username password') →
      Dictionary.mapValues Config.blankPassword environment' =
        Dictionary.mapValues Config.blankPassword environment →
      ∀ farEnd input, (run words environment' farEnd disk input).withoutBodies =
        (run words environment farEnd disk input).withoutBodies := by
  intro always
  have same := congrArg Transcript.errors
    (always loginWords (passwordIs "a") (passwordIs "b") (copying "a") (copying "b") noOptions "ana"
      "a" "b" (variableDisk copyingLine) (loads_copying (by decide)) (loads_copying (by decide)) rfl
      rfl rfl .unreachable "")
  rw [Transcript.errors_withoutBodies, Transcript.errors_withoutBodies,
    errors_copying (by decide) rfl (by decide +kernel),
    errors_copying (by decide) rfl (by decide +kernel)] at same
  revert same
  decide +kernel

end Console

end TeacherRegistry
