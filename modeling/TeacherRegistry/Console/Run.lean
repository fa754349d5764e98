import TeacherRegistry.Config.VariableFile
import TeacherRegistry.Console.Arguments
import TeacherRegistry.Console.Table
import TeacherRegistry.Console.Transcript
import TeacherRegistry.Controller
import TeacherRegistry.Session

/-!
Runs of the console: one command, from its words to what can be seen of it. Options of the command
line stand above the environment and the configuration file; a token among them takes the place of
the stored session.
-/

namespace TeacherRegistry.Console

/-- How a command ends. -/
inductive Ending where
  | success
  /-- The operator has been told already. -/
  | failure
  | error (message : String)
deriving Repr, DecidableEq

def Ending.exitCode : Ending → Nat
  | .success => 0
  | .failure | .error _ => 1

/-- Why there are no settings to run with. -/
inductive Problem where
  | loading (e : Config.Error)
  | zeroTimeout
  /-- The settings of the command line make the address unusable. -/
  | invalid (e : Config.Error)
deriving Repr, DecidableEq

def Problem.message : Problem → String
  | .loading e => "Loading configuration: " ++ e.message
  | .zeroTimeout => "--timeout must be at least 1 second"
  | .invalid e => e.message

/-- Whether the run breaks off without a message. -/
def Problem.isCrash : Problem → Bool
  | .loading e => e.isCrash
  | _ => false

/-- Puts the options of the command line over the settings of the other layers. -/
def Arguments.override (arguments : Arguments) (config : Config) : Except Problem Config :=
  if arguments.timeoutSeconds = some 0 then .error .zeroTimeout
  else .ok { config with
    baseUrl := arguments.baseUrl.getD config.baseUrl
    timeoutMillis := (arguments.timeoutSeconds.map (· * 1000)).getD config.timeoutMillis
    sessionFile := arguments.sessionFile.or config.sessionFile }

/-- The settings that a command runs with. -/
def settings (arguments : Arguments) (disk : Disk) (environment : Config.Environment) :
    Except Problem Config := do
  let loaded ← (Config.load disk arguments.config environment).mapError .loading
  let config ← arguments.override loaded
  config.validate.mapError .invalid
  return config

/-- Appends a name to the path of a directory. -/
def joinPath (directory name : String) : String :=
  if directory.toList.getLast? = some '/' then directory ++ name else directory ++ "/" ++ name

/-- The directory for the data of programs. -/
def dataDirectory? (environment : Config.Environment) : Option String :=
  let home := (Dictionary.get? environment "HOME").filter (· != "")
  ((Dictionary.get? environment "XDG_DATA_HOME").filter Disk.isAbsolute).or
    (home.map fun home => joinPath home ".local/share")

/-- The path of the session file. -/
def sessionPath (config : Config) (environment : Config.Environment) : Except Store.Error String :=
  match config.sessionFile with
  | some path => .ok path
  | none =>
    match dataDirectory? environment with
    | some directory => .ok (joinPath directory "edudata/session.json")
    | none => .error .noDataDirectory

/-- The answers that mean yes. -/
def yesAnswers : List String := ["s", "si", "sí", "y", "yes"]

/-- Whether the first line of the input agrees. -/
def agrees (input : String) : Bool :=
  yesAnswers.contains
    (Text.lower (Text.trim (String.ofList (input.toList.takeWhile (· != '\n')))))

/-- What answers the questions of a command. -/
def Command.confirmation (input : String) : Command → Confirmation
  | .delete _ true => .always true
  | _ => .answers [agrees input]

/-- The ending of an operation that tells the operator of its failure itself. -/
def endingOf {α : Type} (effect : Controller.Effect α) : Ending × World :=
  match effect.result with
  | .ok _ => (.success, effect.world)
  | .error _ => (.failure, effect.world)

/-- Types texts into the form. -/
def typeFields (fields : TypedFields) (c : Controller) : Controller :=
  fields.foldl (fun c field => c.updateField field.1 field.2) c

/-- Prints a profile after a greeting, or tells why there is none. -/
def greet (coloured : Bool) (greeting : String)
    (outcome : Except Session.Error Json.Value × World) : Ending × World :=
  match outcome with
  | (.ok profile, w) =>
    (.success, w.print (Style.boldGreen.render coloured greeting ++ " " ++ profile.text))
  | (.error e, w) => (.error (e.message w.reason), w)

/-- Shows the records that a term finds. -/
def runList (client : Client) (coloured : Bool) (filter : Option String) (w : World) :
    Ending × World :=
  match Controller.load client .initial w with
  | ⟨.error _, _, w⟩ => (.failure, w)
  | ⟨.ok (), c, w⟩ =>
    (.success, (table coloured (c.setFilter (filter.getD "")).filtered).foldl World.print w)

/-- Changes the given fields of a listed record. -/
def runUpdate (client : Client) (id : String) (fields : TypedFields) (w : World) : Ending × World :=
  match Controller.load client .initial w with
  | ⟨.error _, _, w⟩ => (.failure, w)
  | ⟨.ok (), c, w⟩ =>
    match c.beginEditById (.ofString id) w with
    | ⟨.error e, _, w⟩ => (.error e.message, w)
    | ⟨.ok (), c, w⟩ => endingOf ((typeFields fields c).submit client w)

/-- Deletes a record. -/
def runDelete (client : Client) (coloured : Bool) (id : String) (w : World) : Ending × World :=
  match Controller.initial.delete client (.ofString id) w with
  | ⟨.ok .deleted, _, w⟩ => (.success, w)
  | ⟨.ok .declined, _, w⟩ =>
    (.success, w.print (Style.dimmed.render coloured "Operación cancelada"))
  | ⟨.error _, _, w⟩ => (.failure, w)

/-- Prints the profile of a session that holds. -/
def showUser (coloured : Bool) (w : World) : Ending × World :=
  match Session.user w.store with
  | .error e => (.error (e.message (w.reason e)), w)
  | .ok profile =>
    (.success, w.print (Style.boldGreen.render coloured "Sesión válida" ++ " "
      ++ (profile.map Json.Value.text).getD ""))

/-- Asks the server about the session, if there is one to ask about. -/
def runValidate (client : Client) (coloured hasToken : Bool) (w : World) : Ending × World :=
  match Session.isLoggedIn w.store with
  | .error e => (.error (e.message (w.reason e)), w)
  | .ok loggedIn =>
    if !loggedIn && !hasToken then
      (.failure, w.print (Style.yellow.render coloured "No hay sesión almacenada"))
    else match Session.validate client w with
      | (.error e, w) => (.error (e.message w.reason), w)
      | (.ok false, w) => (.failure, w)
      | (.ok true, w) => showUser coloured w

/-- Forgets the session. -/
def runLogout (coloured : Bool) (w : World) : Ending × World :=
  match Session.logout w with
  | (.error e, w) => (.error (e.message (w.reason e)), w)
  | (.ok (), w) =>
    let notice := Style.green.render coloured "Sesión cerrada"
    (.success, w.print (notice ++ " (" ++ w.store.path ++ ")"))

/-- Runs a command. -/
def runCommand (client : Client) (coloured hasToken : Bool) (w : World) : Command → Ending × World
  | .list filter => runList client coloured filter w
  | .create fields =>
    endingOf ((typeFields fields Controller.initial.toggleForm).submit client w)
  | .update id fields => runUpdate client id fields w
  | .delete id _ => runDelete client coloured id w
  | .login username password =>
    greet coloured "Sesión iniciada:" (Session.login client username password w)
  | .guest => greet coloured "Sesión de invitado:" (Session.loginAsGuest client w)
  | .validate => runValidate client coloured hasToken w
  | .logout => runLogout coloured w

/-- The world that a command starts in. -/
def startingWorld (arguments : Arguments) (farEnd : Http.FarEnd) (input : String) (store : Store)
    (reasons : Store.Reasons) : World :=
  { farEnd
    store
    credentials := arguments.token.elim .stored fun token => .fixed (some token)
    confirmation := arguments.command.confirmation input
    expiry := .hinted
    spans := []
    journal := []
    reasons }

/-- Runs a command with its settings. -/
def runSettled (arguments : Arguments) (config : Config) (environment : Config.Environment)
    (coloured : Bool) (farEnd : Http.FarEnd) (disk : Disk) (input : String)
    (reasons : Store.Reasons) : Ending × World :=
  let world (path : String) :=
    (startingWorld arguments farEnd input (.file path disk) reasons).log
      (.configured config.display)
  match sessionPath config environment with
  | .error e => (.error e.message, world "")
  | .ok path =>
    match Client.ofConfig config with
    | .error e => (.error e.message, world path)
    | .ok client =>
      runCommand client coloured arguments.token.isSome (world path) arguments.command

/-- The disk after a run. -/
def diskAfter (disk : Disk) (store : Store) : Disk :=
  match store with
  | .file _ disk => disk
  | .memory _ => disk

/-- The line that tells of an error. -/
def errorLine (coloured : Bool) (message : String) : String :=
  Style.boldBrightRed.render coloured "error:" ++ " " ++ message ++ "\n"

/-- The name and version of the program. -/
def versionLine : String := "docentes 0.1.0\n"

/-- What is seen of a call that runs no command. -/
def refused (disk : Disk) : Refusal → Transcript
  | .usage => ⟨2, "", "", [], [], disk⟩
  | .help => ⟨0, "", "", [], [], disk⟩
  | .version => ⟨0, versionLine, "", [], [], disk⟩

/-- The files of variables, in the order in which they are read. -/
def variableFiles : List String := [".env", ".env.linux"]

/-- Runs the arguments, with a filter of diagnostic events. -/
def runFiltered (arguments : Arguments) (filter : Log.Filter) (environment : Config.Environment)
    (farEnd : Http.FarEnd) (disk : Disk) (input : String) (reasons : Store.Reasons) : Transcript :=
  let coloured := isColoured (Dictionary.get? environment "CLICOLOR_FORCE")
  match settings arguments disk environment with
  | .error problem =>
    if problem.isCrash then .crash disk
    else ⟨1, "", errorLine coloured problem.message, [], [], disk⟩
  | .ok config =>
    let (ending, w) := runSettled arguments config environment coloured farEnd disk input reasons
    let display : Display :=
      { coloured
        plain := arguments.plain
        interactive := arguments.command.confirmation input != .always true
        filter := if arguments.jsonLogs then filter else .off }
    let message := match ending with
      | .error message => errorLine coloured message
      | _ => ""
    { exitCode := ending.exitCode
      output := display.output w.journal
      errors := display.errors w.journal ++ message
      logs := display.logLines w.journal
      requests := w.journal.requests
      disk := diskAfter disk w.store }

/-- Runs the arguments. -/
def runArguments (arguments : Arguments) (environment : Config.Environment) (farEnd : Http.FarEnd)
    (disk : Disk) (input : String) (reasons : Store.Reasons) : Transcript :=
  match logFilter? (Dictionary.get? environment filterVariable) .warn with
  | none => .crash disk
  | some filter => runFiltered arguments filter environment farEnd disk input reasons

/-- Runs the words of a command line in an environment, with a disk, an input and a far end, where
these reasons are given for errors of the session file. -/
def run (words : List String) (environment : Config.Environment) (farEnd : Http.FarEnd)
    (disk : Disk) (input : String) (reasons : Store.Reasons := Store.noReasons) : Transcript :=
  match Config.VariableFile.loadNearest disk variableFiles environment with
  | none => .crash disk
  | some environment =>
    match Arguments.ofWords words environment with
    | .error refusal => refused disk refusal
    | .ok arguments => runArguments arguments environment farEnd disk input reasons

end TeacherRegistry.Console
