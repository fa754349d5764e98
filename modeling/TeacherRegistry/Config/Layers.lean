import TeacherRegistry.Config.Basic
import TeacherRegistry.Disk
import TeacherRegistry.Json.Printer
import TeacherRegistry.Text.ByteCut
import TeacherRegistry.Text.LowerCase
import TeacherRegistry.Text.UpperCase

/-!
Layers of settings. A JSON file and the environment both give options, the environment having the
last word. What is nested in the file has a name made of the names on the way to it, with colons
between them. A layer finds an option by the upper case of its name, and remembers how the name was
written; the part before the first colon of what was written says which options there are, each
empty unless a layer has a text under its name.
-/

namespace TeacherRegistry.Config

open Json (Value)

/-- Variables by name, in the order in which they were set. -/
abbrev Environment := List (String × String)

/-- The name of an option: the names on the way to it, outermost first. -/
def optionName (path : List String) : String :=
  String.intercalate ":" path

/-- What stands for a value that nothing is nested in. -/
def leafText : Value → String
  | .string s => s
  | .null => ""
  | value => value.text

mutual

/-- The options that a value gives at the end of a path. An empty array gives none. The names of
members are written with a capital. -/
def flatten (path : List String) : Value → List (String × String)
  | .object [] => [(optionName path, "")]
  | .object members => flattenMembers path members
  | .array items => flattenItems path 0 items
  | value => [(optionName path, leafText value)]

def flattenMembers (path : List String) : List (String × Value) → List (String × String)
  | [] => []
  | (name, value) :: rest =>
    flatten (path ++ [Text.capitalized name]) value ++ flattenMembers path rest

def flattenItems (path : List String) (index : Nat) : List Value → List (String × String)
  | [] => []
  | value :: rest => flatten (path ++ [toString index]) value ++ flattenItems path (index + 1) rest

end

/-- What a JSON value that is no object is called. -/
def kindName : Value → String
  | .null => "null"
  | .bool _ => "Boolean"
  | .number _ => "number"
  | .string _ => "string"
  | .array _ => "array"
  | .object _ => "object"

/-- The options in the bytes of a configuration file. -/
def fileOptions (bytes : ByteArray) : Except Error (List (String × String)) :=
  match Value.ofBytes? bytes with
  | none => .error .malformedFile
  | some (.object members) => .ok (flattenMembers [] members)
  | some value => .error (.notAnObject (kindName value))

/-- What the names of the variables start with that hold options. -/
def variablePrefix : List Char := "edudata_".toList

/-- Two underscores in the name of a variable stand for a colon. -/
def colons : List Char → List Char
  | '_' :: '_' :: rest => ':' :: colons rest
  | c :: rest => c :: colons rest
  | [] => []

/-- The option that a variable gives: its name as it is written. -/
def variableOption? (entry : String × String) : Option (String × String) :=
  let name := entry.1.toList
  if variablePrefix.isPrefixOf (name.map Char.toLower) then
    some (String.ofList (name.drop variablePrefix.length), entry.2)
  else none

/-- An option as a layer has it. -/
structure Setting where
  /-- The name as it was written. -/
  written : String
  value : String
deriving Repr, DecidableEq

/-- Options by the name under which they are found. -/
abbrev Layer := Dictionary Setting

namespace Layer

/-- The layer of options, each found under the key of its name. Of two with one key the later
counts. -/
def ofOptions (key : String → String) (options : List (String × String)) : Layer :=
  Dictionary.ofList (options.map fun (name, value) => (key name, ⟨name, value⟩))

/-- The layer of a file. -/
def ofFile (options : List (String × String)) : Layer :=
  ofOptions Text.upper options

/-- The layer of the environment. -/
def ofEnvironment (environment : Environment) : Layer :=
  ofOptions (fun name => String.ofList (colons (Text.upper name).toList))
    (environment.filterMap variableOption?)

/-- The part of a name before its first colon. -/
def firstPart (name : List Char) : String :=
  String.ofList (name.takeWhile (· != ':'))

/-- Takes the name of a setting apart below the section of an upper-case name. Where the section
ends is told by its number of bytes, once as a place among the characters of the key and once as a
place among the bytes of the written name; `none` if there is no such place. Gives the next part of
the name if the setting is in the section. -/
def partBelow? (parent : String) (key : String) (setting : Setting) : Option (Option String) :=
  let size := parent.utf8ByteSize
  if size < key.utf8ByteSize && parent.toList.isPrefixOf key.toList then
    match key.toList[size]? with
    | none => none
    | some ':' =>
      (Text.dropBytes? setting.written.toList (size + 1)).map fun rest => some (firstPart rest)
    | some _ => some none
  else some none

/-- The names of the sections and options below a section. -/
def below? (layer : Layer) (parent : String) : Option (List String) :=
  (layer.mapM fun (key, setting) => partBelow? parent key setting).map (List.filterMap id)

end Layer

/-- Whether the names below a section can be taken apart, as deep as `depth` sections. -/
def isSeparable (layers : List Layer) : Nat → String → Bool
  | 0, _ => true
  | depth + 1, name =>
    match layers.mapM (·.below? (Text.upper name)) with
    | none => false
    | some names =>
      ((names.flatten.map fun part => Text.upper name ++ ":" ++ Text.upper part).eraseDups).all
        (isSeparable layers depth)

/-- The options of layers, the last of them having the last word. -/
def merge (layers : List Layer) : Except Error Options :=
  let settings := layers.flatten
  let names := (settings.map fun (_, setting) => Layer.firstPart setting.written.toList).eraseDups
  let depth := settings.foldr (fun (key, _) n => max key.length n) 0
  let value (name : String) : String :=
    (layers.reverse.findSome? fun layer =>
      (Dictionary.get? layer (Text.upper name)).map Setting.value).getD ""
  if names.all (isSeparable layers (depth + 1)) then
    .ok (Dictionary.ofList (names.map fun name => (Text.lower name, value name)))
  else .error .brokenName

/-- The name of the configuration file when none is given. -/
def defaultFile : String := "edudata.json"

/-- The options in a configuration file; what is not there, or not a file, gives none. -/
def readFile (disk : Disk) (path : String) : Except Error (List (String × String)) :=
  match disk.read path with
  | .content bytes => fileOptions bytes
  | .missing | .failed => .ok []

/-- The options of all layers. -/
def layers (disk : Disk) (file : Option String) (environment : Environment) :
    Except Error Options := do
  merge [.ofFile (← readFile disk (file.getD defaultFile)), .ofEnvironment environment]

/-- The settings of all layers. -/
def load (disk : Disk) (file : Option String) (environment : Environment) :
    Except Error Config :=
  layers disk file environment >>= ofOptions

end TeacherRegistry.Config
