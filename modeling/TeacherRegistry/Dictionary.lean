/-!
Dictionaries from texts to values, kept as entries in increasing order of their keys, which is the
order in which they are written out. Texts are ordered by code points. The lemmas say what each
operation does to the value under a key, and hold of any list of entries.
-/

namespace TeacherRegistry

/-- Entries in increasing order of their keys. -/
abbrev Dictionary (α : Type) := List (String × α)

namespace Dictionary

variable {α : Type}

/-- The value under a key. -/
def get? : Dictionary α → String → Option α
  | [], _ => none
  | (key, value) :: rest, sought => if key = sought then some value else get? rest sought

/-- Puts a value under a key, in place of the one that was there. -/
def insert (key : String) (value : α) : Dictionary α → Dictionary α
  | [] => [(key, value)]
  | (key', value') :: rest =>
    if key < key' then (key, value) :: (key', value') :: rest
    else if key = key' then (key, value) :: rest
    else (key', value') :: insert key value rest

/-- Removes a key and its value. -/
def erase (key : String) : Dictionary α → Dictionary α
  | [] => []
  | (key', value) :: rest => if key' = key then erase key rest else (key', value) :: erase key rest

/-- Collects entries; of two with one key the later counts. -/
def ofList (entries : List (String × α)) : Dictionary α :=
  entries.foldl (fun d entry => insert entry.1 entry.2 d) []

/-- The entries stand in strictly increasing order of their keys. -/
def Sorted (d : Dictionary α) : Prop :=
  d.Pairwise fun a b => a.1 < b.1

@[simp] theorem get?_nil (key : String) : get? ([] : Dictionary α) key = none := rfl

theorem get?_insert (d : Dictionary α) (key sought : String) (value : α) :
    get? (insert key value d) sought = if key = sought then some value else get? d sought := by
  fun_induction insert key value d <;> grind [get?]

theorem get?_erase (d : Dictionary α) (key sought : String) :
    get? (erase key d) sought = if key = sought then none else get? d sought := by
  fun_induction erase key d <;> grind [get?]

end Dictionary

end TeacherRegistry
