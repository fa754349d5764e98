import TeacherRegistry.Config.Layers
import TeacherRegistry.Text.Alphanumeric

/-!
Files of variables: a line `NAME=value` gives a variable that is not set yet. Quotes and backslashes
let a value go on over several lines and hold any character; a dollar sign puts in the value of
another variable. Reading stops at the first line that is ill-formed, and keeps what came before it.
-/

namespace TeacherRegistry.Config.VariableFile

/-- What a place in the file is inside of, as far as it matters for where a line ends. -/
inductive Context where
  | plain
  /-- After a blank, where a comment may begin. -/
  | blank
  | escape
  | strong
  | strongEscape
  | weak
  | weakEscape
  | comment
deriving Repr, DecidableEq

/-- The context after one more character. -/
def Context.next (context : Context) (c : Char) : Context :=
  let opening : Context :=
    if c = '\\' then .escape else if c = '"' then .weak else if c = '\x27' then .strong else .plain
  match context with
  | .blank => if c = '#' then .comment else opening
  | .plain => if Text.isBlankChar c ∧ c ≠ '\n' ∧ c ≠ '\r' then .blank else opening
  | .escape => .plain
  | .weak => if c = '\\' then .weakEscape else if c = '"' then .plain else .weak
  | .weakEscape => .weak
  | .strong => if c = '\\' then .strongEscape else if c = '\x27' then .plain else .strong
  | .strongEscape => .strong
  | .comment => .comment

/-- The context at the end of a line, and the part of the line before a comment. -/
def scan (context : Context) : List Char → Context × List Char
  | [] => (context, [])
  | c :: rest =>
    match context.next c with
    | .comment => (.comment, [])
    | next =>
      let (last, before) := scan next rest
      (last, c :: before)

/-- A line without the line break at its end. -/
def withoutBreak (line : List Char) : List Char :=
  match line.reverse with
  | '\n' :: '\r' :: rest => rest.reverse
  | '\n' :: rest => rest.reverse
  | _ => line

/-- Joins lines that belong together, given what the lines so far have left open and their text; the
end is `none` if it comes in the middle. -/
def joinLines (context : Context) (text : List Char) : List (List Char) → List (Option (List Char))
  | [] => if context = .plain then [] else [none]
  | line :: rest =>
    if ((text ++ line).dropWhile Text.isBlankChar).head? = some '#' then
      some [] :: joinLines .plain [] rest
    else match scan context line with
      | (.comment, before) => some (text ++ before) :: joinLines .plain [] rest
      | (.plain, _) => some (withoutBreak (text ++ line)) :: joinLines .plain [] rest
      | (context, _) => joinLines context (text ++ line) rest

/-- Cuts a text after every line break. -/
def breakLines : List Char → List (List Char)
  | [] => []
  | c :: rest =>
    if c = '\n' then [c] :: breakLines rest
    else match breakLines rest with
      | [] => [[c]]
      | line :: lines => (c :: line) :: lines

/-- What a place in a value is inside of. Weak quotes stay open through escapes and names. -/
inductive ValueContext where
  | text (weak : Bool)
  | escape (weak : Bool)
  | strong
  /-- In the name of a variable, between braces or not. -/
  | variable (weak braced : Bool) (name : List Char)
  /-- After the value, where only blanks and a comment may come. -/
  | ended
  | comment
deriving Repr, DecidableEq

/-- The value that is put in for the name of a variable. -/
def substitute (environment : Environment) (name : List Char) : List Char :=
  ((Dictionary.get? environment (String.ofList name)).getD "").toList

/-- Reads one character of a value; gives the context after it and what the character adds. -/
def readValueChar? (environment : Environment) (context : ValueContext) (c : Char) :
    Option (ValueContext × List Char) :=
  match context with
  | .comment => some (.comment, [])
  | .ended =>
    if c = ' ' ∨ c = '\t' then some (.ended, [])
    else if c = '#' then some (.comment, [])
    else none
  | .escape weak =>
    if c = 'n' then some (.text weak, ['\n'])
    else if c ∈ ['\\', '\x27', '"', '$', ' '] then some (.text weak, [c])
    else none
  | .strong => if c = '\x27' then some (.text false, []) else some (.strong, [c])
  | .variable weak true name =>
    if c = '}' then some (.text weak, substitute environment name)
    else some (.variable weak true (name ++ [c]), [])
  | .variable weak false name =>
    if Text.isAlphanumeric c then some (.variable weak false (name ++ [c]), [])
    else if c = '{' ∧ name = [] then some (.variable weak true [], [])
    else if c = '$' then some (.variable weak false [], substitute environment name)
    else some (.text weak, substitute environment name ++ [c])
  | .text weak =>
    if c = '$' then some (.variable weak false [], [])
    else if c = '"' then some (.text (!weak), [])
    else if c = '\\' then some (.escape weak, [])
    else if !weak ∧ c = '\x27' then some (.strong, [])
    else if !weak ∧ (c = ' ' ∨ c = '\t') then some (.ended, [])
    else some (.text weak, [c])

/-- Reads a value from a context on. -/
def readValue? (environment : Environment) (context : ValueContext) :
    List Char → Option (List Char)
  | [] =>
    match context with
    | .text false | .escape false | .ended | .comment => some []
    | .variable false false name => some (substitute environment name)
    | _ => none
  | c :: rest =>
    match readValueChar? environment context c with
    | none => none
    | some (context, added) => (readValue? environment context rest).map (added ++ ·)

/-- Whether a character may stand in the name of a variable that is set. -/
def isKeyChar (c : Char) : Bool :=
  c.isAlphanum || c == '_' || c == '.'

/-- Reads the name of a variable, which starts with a letter or underscore, and what follows it. -/
def readKey? (line : List Char) : Option (List Char × List Char) :=
  if line.head?.any fun c => c.isAlpha || c == '_' then
    some (line.takeWhile isKeyChar, (line.dropWhile isKeyChar).dropWhile Text.isBlankChar)
  else none

/-- Reads the name of a variable and passes the equals sign after it. The word `export` may stand in
front of the name. -/
def readName? (line : List Char) : Option (List Char × List Char) :=
  match readKey? line with
  | some (key, '=' :: rest) => some (key, rest)
  | some (key, rest) =>
    if key = "export".toList then
      match readKey? rest with
      | some (key, '=' :: rest) => some (key, rest)
      | _ => none
    else none
  | none => none

/-- The variable that a line gives, if it is not empty; `none` if it is ill-formed. -/
def readLine? (environment : Environment) (line : List Char) : Option (Option (String × String)) :=
  let line := Text.trimBoth Text.isBlankChar line
  if line.head?.all (· == '#') then some none
  else match readName? line with
    | none => none
    | some (key, rest) =>
      let value := rest.dropWhile Text.isBlankChar
      if value.head?.all (· == '#') then some (some (String.ofList key, ""))
      else (readValue? environment (.text false) value).map fun value =>
        some (String.ofList key, String.ofList value)

/-- Sets the variables of lines, as far as they are well-formed. A variable that is set stays. No
variable can be set to a text with a zero character; that gives `none`. -/
def setAll (environment : Environment) : List (Option (List Char)) → Option Environment
  | [] | none :: _ => some environment
  | some line :: rest =>
    match readLine? environment line with
    | none => some environment
    | some none => setAll environment rest
    | some (some (key, value)) =>
      if (Dictionary.get? environment key).isSome then setAll environment rest
      else if value.toList.contains '\x00' then none
      else setAll (environment ++ [(key, value)]) rest

/-- Sets the variables of a file. -/
def load (environment : Environment) (text : String) : Option Environment :=
  let cs := match text.toList with
    | '\ufeff' :: rest => rest
    | cs => cs
  setAll environment (joinLines .plain [] (breakLines cs))

/-- The text of a file of this name in the nearest of the directories from `location` up to the root
that has one. -/
def nearest? (disk : Disk) (name : String) (location : Location) : Option String :=
  let above := (List.range (location.length + 1)).map fun n => location.take (location.length - n)
  above.findSome? fun directory =>
    match disk.node? (directory ++ [name]) with
    | some (.file content) => String.fromUTF8? content
    | _ => none

/-- Sets the variables of the nearest files of these names, one file after the other. -/
def loadNearest (disk : Disk) (names : List String) (environment : Environment) :
    Option Environment :=
  names.foldlM (fun known name =>
    match nearest? disk name disk.workingDirectory with
    | some text => load known text
    | none => some known) environment

end TeacherRegistry.Config.VariableFile
