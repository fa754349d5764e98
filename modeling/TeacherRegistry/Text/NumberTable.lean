/-!
Tables of numbers in a compact form: lines of rows with blanks between them, a row being hexadecimal
numbers with commas between them.
-/

namespace TeacherRegistry.Text

/-- The value of a hexadecimal number in upper case. -/
def hexNumber (digits : List Char) : Nat :=
  digits.foldl (fun n c =>
    n * 16 + if c.isDigit then c.toNat - '0'.toNat else c.toNat - 'A'.toNat + 10) 0

/-- The rows of a table. -/
def numberTable (lines : List String) : List (List Nat) :=
  lines.flatMap fun line => (line.toList.splitOn ' ').map fun row =>
    (row.splitOn ',').map hexNumber

/-- The rows of one line. -/
def rowsOf (line : List Char) : List (List Nat) :=
  (line.splitOn ' ').map fun row => (row.splitOn ',').map hexNumber

@[simp] theorem all_numberTable_nil (p : List Nat → Bool) : (numberTable []).all p = true := rfl

/-- A table is checked line by line, each being a small fact of its own. -/
theorem all_numberTable_cons {p : List Nat → Bool} {line : String} {cs : List Char}
    {lines : List String} (spelled : line = String.ofList cs) (first : (rowsOf cs).all p = true)
    (rest : (numberTable lines).all p = true) : (numberTable (line :: lines)).all p = true := by
  have rows : numberTable (line :: lines) = rowsOf cs ++ numberTable lines := by
    rw [numberTable, List.flatMap_cons, spelled, String.toList_ofList]
    rfl
  rw [rows, List.all_append, first, rest]
  rfl

/-- Whether a number lies in a range of the table, both ends included. -/
def inTable (table : List (List Nat)) (n : Nat) : Bool :=
  table.any fun
    | first :: last :: _ => first ≤ n && n ≤ last
    | _ => false

/-- What a table of ranges says about a number: the third number of its row. -/
def tableValue? (table : List (List Nat)) (n : Nat) : Option Nat :=
  table.findSome? fun
    | [first, last, value] => if first ≤ n ∧ n ≤ last then some value else none
    | _ => none

end TeacherRegistry.Text
