import TeacherRegistry.Config.Layers
import TeacherRegistry.Teacher.Basic

/-!
Arguments of the command line. Options that hold for every command may stand before or after its
name; where both stand, the later counts. An option takes the rest of its word or the next word, and
a word that begins with a dash is never taken for a value. Some options may be given by variables.
-/

namespace TeacherRegistry.Console

/-- Texts typed into fields, in the order of the fields. -/
abbrev TypedFields := List (Teacher.Field × String)

inductive Command where
  | list (filter : Option String)
  | create (fields : TypedFields)
  | update (id : String) (fields : TypedFields)
  | delete (id : String) (yes : Bool)
  | login (username password : String)
  | guest
  | validate
  | logout
deriving Repr, DecidableEq

structure Arguments where
  config : Option String
  baseUrl : Option String
  timeoutSeconds : Option Nat
  sessionFile : Option String
  token : Option String
  plain : Bool
  jsonLogs : Bool
  command : Command
deriving Repr, DecidableEq

/-- Why no command is run. -/
inductive Refusal where
  /-- The arguments make no command. -/
  | usage
  /-- Help was asked for. -/
  | help
  /-- The version was asked for. -/
  | version
deriving Repr, DecidableEq

/-- What an option takes. -/
inductive Operand where
  | nothing
  | text
  /-- A text that is not empty. -/
  | path
  /-- A whole number of 64 bits. -/
  | number
deriving Repr, DecidableEq

structure Switch where
  long : String
  short : Option Char
  operand : Operand
deriving Repr, DecidableEq

/-- The options of every command. -/
def globalSwitches : List Switch :=
  [⟨"config", some 'c', .path⟩, ⟨"base-url", none, .text⟩, ⟨"timeout", none, .number⟩,
   ⟨"session-file", none, .path⟩, ⟨"token", none, .text⟩, ⟨"plain", none, .nothing⟩,
   ⟨"json-logs", none, .nothing⟩]

/-- The options that type a text into a field. -/
def fieldSwitches : List Switch :=
  Teacher.Field.all.map fun field => ⟨field.label, none, .text⟩

/-- The commands with their own options. -/
def commands : List (String × List Switch) :=
  [("list", [⟨"filter", some 'f', .text⟩]),
   ("create", fieldSwitches),
   ("update", ⟨"id", none, .text⟩ :: fieldSwitches),
   ("delete", [⟨"id", none, .text⟩, ⟨"yes", some 'y', .nothing⟩]),
   ("login", [⟨"username", some 'u', .text⟩, ⟨"password", some 'p', .text⟩]),
   ("guest", []),
   ("validate", []),
   ("logout", [])]

/-- The word that asks for help about a command. -/
def helpCommand : String := "help"

/-- Options that have been given, with their values. -/
abbrev Given := List (String × String)

/-- Notes that an option was given; none may be given twice. -/
def Given.add (given : Given) (switch : Switch) (value : String) : Except Refusal Given :=
  let valid := match switch.operand with
    | .nothing | .text => true
    | .path => value != ""
    | .number => (Text.natural? Config.timeoutBound value).isSome
  if valid && (given.lookup switch.long).isNone then .ok (given ++ [(switch.long, value)])
  else .error .usage

/-- Whether a word is taken for an option and not for a value. -/
def isDashed (word : String) : Bool :=
  word.toList.head? == some '-' && word != "-"

/-- The options read so far, with one whose value must be the next word. -/
abbrev Reading := Given × Option Switch

/-- Reads an option by its long name. -/
def readLong (switches : List Switch) (atRoot : Bool) (name : String) (attached : Option String)
    (given : Given) : Except Refusal Reading :=
  match switches.find? (·.long == name), attached with
  | some switch, none =>
    if switch.operand = .nothing then (given.add switch "").map fun given => (given, none)
    else .ok (given, some switch)
  | some switch, some value =>
    if switch.operand = .nothing then .error .usage
    else (given.add switch value).map fun given => (given, none)
  | none, none =>
    if name = "help" then .error .help
    else if name = "version" ∧ atRoot then .error .version
    else .error .usage
  | none, some _ => .error .usage

/-- Reads the options whose short names stand in one word. -/
def readShort (switches : List Switch) (atRoot : Bool) :
    List Char → Given → Except Refusal Reading
  | [], given => .ok (given, none)
  | letter :: letters, given =>
    match switches.find? (·.short == some letter) with
    | some switch =>
      if switch.operand = .nothing then
        match given.add switch "" with
        | .ok given => readShort switches atRoot letters given
        | .error refusal => .error refusal
      else
        let value := match letters with
          | '=' :: value => value
          | value => value
        if letters = [] then .ok (given, some switch)
        else (given.add switch (String.ofList value)).map fun given => (given, none)
    | none =>
      if letter = 'h' then .error .help
      else if letter = 'V' ∧ atRoot then .error .version
      else .error .usage

/-- Reads one word that begins with a dash. -/
def readDashed (switches : List Switch) (atRoot : Bool) (word : String) (given : Given) :
    Except Refusal Reading :=
  match word.toList with
  | '-' :: '-' :: cs =>
    let attached := match cs.dropWhile (· != '=') with
      | [] => none
      | _ :: value => some (String.ofList value)
    readLong switches atRoot (String.ofList (cs.takeWhile (· != '='))) attached given
  | cs => readShort switches atRoot (cs.drop 1) given

/-- Reads the options of one level up to the first word that is none. After two dashes no option is
read, and nothing else may follow. -/
def readLevel (switches : List Switch) (atRoot : Bool) :
    Option Switch → List String → Given → Except Refusal (Given × List String)
  | some _, [], _ => .error .usage
  | some switch, word :: rest, given =>
    if isDashed word then .error .usage
    else match given.add switch word with
      | .ok given => readLevel switches atRoot none rest given
      | .error refusal => .error refusal
  | none, [], given => .ok (given, [])
  | none, word :: rest, given =>
    if word = "--" then if rest = [] then .ok (given, []) else .error .usage
    else if isDashed word then
      match readDashed switches atRoot word given with
      | .ok (given, pending) => readLevel switches atRoot pending rest given
      | .error refusal => .error refusal
    else .ok (given, word :: rest)

/-- A value that must be there. -/
def required (value : Option String) : Except Refusal String :=
  value.elim (.error .usage) .ok

/-- The texts given for fields. -/
def typedFields (given : Given) : TypedFields :=
  Teacher.Field.all.filterMap fun field => (given.lookup field.label).map (field, ·)

/-- The command of a name with the options given after it. -/
def command (name : String) (given : Given) (environment : Config.Environment) :
    Except Refusal Command :=
  match name with
  | "list" => .ok (.list (given.lookup "filter"))
  | "create" => .ok (.create (typedFields given))
  | "update" => (required (given.lookup "id")).map fun id => .update id (typedFields given)
  | "delete" => (required (given.lookup "id")).map fun id =>
      .delete id (given.lookup "yes").isSome
  | "login" => do
    let username ← required (given.lookup "username")
    let password ← required
      ((given.lookup "password").or (Dictionary.get? environment "EDUDATA_PASSWORD"))
    return .login username password
  | "guest" => .ok .guest
  | "validate" => .ok .validate
  | "logout" => .ok .logout
  | _ => .error .usage

/-- Answers a call for help about a command. -/
def refuseHelp (words : List String) : Refusal :=
  match words with
  | [] => .help
  | [name] => if name = helpCommand ∨ (commands.lookup name).isSome then .help else .usage
  | _ => .usage

/-- Puts the arguments together from the options before and after the name of the command. -/
def assemble (name : String) (before after : Given) (environment : Config.Environment) :
    Except Refusal Arguments := do
  let value (long : String) := (after.lookup long).or (before.lookup long)
  let command ← command name after environment
  return {
    config := value "config"
    baseUrl := value "base-url"
    timeoutSeconds := (value "timeout").bind (Text.natural? Config.timeoutBound)
    sessionFile := value "session-file"
    token := (value "token").or (Dictionary.get? environment "EDUDATA_TOKEN")
    plain := (value "plain").isSome
    jsonLogs := (value "json-logs").isSome
    command }

/-- Reads the words of a command line. -/
def Arguments.ofWords (words : List String) (environment : Config.Environment) :
    Except Refusal Arguments := do
  let (before, rest) ← readLevel globalSwitches true none words []
  match rest with
  | [] => .error .usage
  | name :: rest =>
    if name = helpCommand then .error (refuseHelp rest)
    else match commands.lookup name with
      | none => .error .usage
      | some switches =>
        let (after, surplus) ← readLevel (switches ++ globalSwitches) false none rest []
        if surplus ≠ [] then .error .usage
        else assemble name before after environment

end TeacherRegistry.Console
