import TeacherRegistry.Console.Run
import TeacherRegistry.Json.Printer

/-!
The program: gives the console the words, the variables and the files that a run may look at, and
carries out what it says. There is no network below it, so every request finds the far end
unreachable.
-/

namespace TeacherRegistry.Main

open Console (Arguments Command Transcript)

/-- The location that an absolute path names. -/
def locationOf (path : String) : Location :=
  Disk.names path

/-- The variables in the form in which a process is given them: entries that end in a zero byte. -/
def variablesOf (text : String) : Config.Environment :=
  (text.toList.splitOn '\x00').filterMap fun entry =>
    match entry.dropWhile (· != '=') with
    | _ :: value => some (String.ofList (entry.takeWhile (· != '=')), String.ofList value)
    | [] => none

/-- The variables of this process. -/
def environment : IO Config.Environment := do
  try
    let bytes ← IO.FS.readBinFile "/proc/self/environ"
    return variablesOf ((String.fromUTF8? bytes).getD "")
  catch _ => return []

/-- Adds what is under an absolute path to the picture of the disk. -/
def look (disk : Disk) (path : String) : IO Disk := do
  try
    return disk.addFile (locationOf path) (← IO.FS.readBinFile path)
  catch
    | .noFileOrDirectory .. => return disk
    | _ => return disk.addDirectory (locationOf path)

/-- A path from the root on. -/
def absolute (directory path : String) : String :=
  if Disk.isAbsolute path then path else Console.joinPath directory path

/-- The directories from one up to the root. -/
def ancestors (location : Location) : List Location :=
  (List.range (location.length + 1)).map fun n => location.take (location.length - n)

/-- Adds the files of variables to the picture of the disk. -/
def lookForVariables (disk : Disk) : IO Disk :=
  (ancestors disk.workingDirectory).foldlM (fun disk directory =>
    Console.variableFiles.foldlM (fun disk name =>
      look disk ("/" ++ "/".intercalate (directory ++ [name]))) disk) disk

/-- Adds the configuration file and the session file to the picture of the disk. -/
def lookForSettings (directory : String) (disk : Disk) (environment : Config.Environment)
    (arguments : Arguments) : IO Disk := do
  let disk ← look disk (absolute directory (arguments.config.getD Config.defaultFile))
  let path := (Console.settings arguments disk environment).toOption.bind fun config =>
    (Console.sessionPath config environment).toOption
  match path with
  | some path => look disk (absolute directory path)
  | none => return disk

/-- The line that answers the question of a command, if it has one. -/
def answerTo (command : Command) : IO String := do
  match command with
  | .delete _ false => (← IO.getStdin).getLine
  | _ => return ""

/-- Writes the files that a run changed. -/
def settle (before after : Disk) : IO Unit := do
  for (location, content) in after.files do
    let unchanged := match before.node? location with
      | some (.file old) => old.toList == content.toList
      | _ => false
    unless unchanged do
      IO.FS.createDirAll ("/" ++ "/".intercalate location.dropLast)
      IO.FS.writeBinFile ("/" ++ "/".intercalate location) content

/-- A diagnostic event as one line of JSON. -/
def logText (line : Console.LogLine) : String :=
  (Json.Value.ofMembers [("level", .string line.level), ("target", .string line.target),
    ("fields", .object line.fields), ("spans", .array line.spans)]).text

/-- Shows a run and carries out what it did to the disk. -/
def report (before : Disk) (transcript : Transcript) : IO UInt32 := do
  settle before transcript.disk
  for line in transcript.logs do
    IO.eprintln (logText line)
  IO.print transcript.output
  IO.eprint transcript.errors
  return transcript.exitCode.toUInt32

end TeacherRegistry.Main

open TeacherRegistry Main

def main (words : List String) : IO UInt32 := do
  let directory := (← IO.currentDir).toString
  let given ← environment
  let disk ← lookForVariables (Disk.blank (locationOf directory))
  match Config.VariableFile.loadNearest disk Console.variableFiles given with
  | none => report disk (.crash disk)
  | some known =>
    match Console.Arguments.ofWords words known with
    | .error refusal => report disk (Console.refused disk refusal)
    | .ok arguments =>
      let disk ← lookForSettings directory disk known arguments
      report disk
        (Console.runArguments arguments known .unreachable disk (← answerTo arguments.command)
          Store.noReasons)
