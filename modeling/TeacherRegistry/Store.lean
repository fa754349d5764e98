import TeacherRegistry.Disk
import TeacherRegistry.Json.Printer
import TeacherRegistry.Log.Event

/-!
Stores: texts under keys, kept in memory or in one file that holds a JSON object of texts. A missing
or empty file is an empty store. What a file holds is never replaced as long as it cannot be
understood, except by a removal, which gives it up.
-/

namespace TeacherRegistry

inductive Store where
  | memory (entries : Dictionary String)
  | file (path : String) (disk : Disk)

namespace Store

/-- The key of the bearer token. -/
def tokenKey : String := "token"

/-- The key of the profile that came with the token. -/
def userKey : String := "user"

inductive Error where
  | unreadable
  | unwritable
  /-- What is stored is not the JSON that belongs there. -/
  | corrupt
  /-- There is no place for the session file. -/
  | noDataDirectory
deriving Repr, DecidableEq

/-- What the system and the reader of JSON give as the reason for an error, told from the store as it
is when they meet it. -/
abbrev Reasons := Store → Error → String

/-- Nothing is given as a reason. -/
def noReasons : Reasons := fun _ _ => ""

/-- What is said about an error, and the reason for it last. -/
def Error.message (e : Error) (reason : String := "") : String :=
  match e with
  | .unreadable | .unwritable => "Storage I/O error: " ++ reason
  | .corrupt => "Storage file is corrupt: " ++ reason
  | .noDataDirectory => "No data directory available for the session file"

/-- The members of an object that holds texts only. -/
def textMembers? : List (Json.RawText × Json.Document) → Option (List (String × String))
  | [] => some []
  | (key, .text value) :: rest => do
    return (← key.string?, ← value.string?) :: (← textMembers? rest)
  | _ => none

/-- The entries that the bytes of a file denote. -/
def decode? (bytes : ByteArray) : Option (Dictionary String) :=
  if bytes.isEmpty then some []
  else match Json.Document.ofBytes? bytes with
    | some (.object members) => (textMembers? members).map Dictionary.ofList
    | _ => none

/-- The bytes of a file with the given entries. -/
def encode (entries : Dictionary String) : ByteArray :=
  (String.ofList (Json.entryLines entries)).toUTF8

/-- The entries of a store. -/
def entries : Store → Except Error (Dictionary String)
  | .memory entries => .ok entries
  | .file path disk =>
    match disk.read path with
    | .content bytes => (decode? bytes).elim (.error .corrupt) .ok
    | .missing => .ok []
    | .failed => .error .unreadable

/-- The text under a key. -/
def get? (store : Store) (key : String) : Except Error (Option String) :=
  store.entries.map (Dictionary.get? · key)

/-- What a change did to a store. -/
structure Change where
  outcome : Except Error Unit
  store : Store
  events : List Log.Event

/-- Puts entries in place of those of the store. -/
def replace (store : Store) (entries : Dictionary String) : Change :=
  match store with
  | .memory _ => ⟨.ok (), .memory entries, []⟩
  | .file path disk =>
    match disk.write path (encode entries) with
    | (true, disk) => ⟨.ok (), .file path disk, [.storeWritten path entries.length]⟩
    | (false, disk) => ⟨.error .unwritable, .file path disk, []⟩

/-- Puts a text under a key. -/
def set (store : Store) (key value : String) : Change :=
  match store.entries with
  | .ok entries => store.replace (entries.insert key value)
  | .error e => ⟨.error e, store, []⟩

/-- The path of the file that a store is kept in. -/
def path : Store → String
  | .memory _ => ""
  | .file path _ => path

/-- Removes a key. A store without the key is left as it is; one that cannot be understood, for the
given reason, becomes empty. -/
def remove (store : Store) (key : String) (reason : String := "") : Change :=
  match store.entries with
  | .ok entries =>
    if (entries.get? key).isSome then store.replace (entries.erase key) else ⟨.ok (), store, []⟩
  | .error .corrupt =>
    let change := store.replace []
    { change with events := .storeDiscarded store.path reason :: change.events }
  | .error e => ⟨.error e, store, []⟩

/-- The bytes of the file that a store is kept in, if there is one. -/
def bytes? : Store → Option ByteArray
  | .memory _ => none
  | .file path disk =>
    match disk.read path with
    | .content bytes => some bytes
    | _ => none

end Store

end TeacherRegistry
