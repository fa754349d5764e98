import TeacherRegistry.Json.Value

/-!
The texts of JSON values. A compact text has no blanks; a dictionary of texts is also written over
several lines, one entry a line.
-/

namespace TeacherRegistry.Json

/-- A hexadecimal digit in lower case. -/
def hexDigit (n : Nat) : Char :=
  if n < 10 then Char.ofNat ('0'.toNat + n) else Char.ofNat ('a'.toNat + n - 10)

/-- How one character stands between quotes. Quotes, backslashes and controls are escaped, and
nothing else. -/
def escapeChar (c : Char) : List Char :=
  match c with
  | '"' => ['\\', '"']
  | '\\' => ['\\', '\\']
  | '\x08' => ['\\', 'b']
  | '\x0c' => ['\\', 'f']
  | '\n' => ['\\', 'n']
  | '\r' => ['\\', 'r']
  | '\t' => ['\\', 't']
  | c =>
    if c.toNat < 0x20 then
      ['\\', 'u', '0', '0', hexDigit (c.toNat / 16), hexDigit (c.toNat % 16)]
    else [c]

/-- A text between quotes. -/
def quotedText (s : String) : List Char :=
  '"' :: s.toList.flatMap escapeChar ++ ['"']

mutual

/-- The compact text of a value. -/
def Value.chars : Value → List Char
  | .null => ['n', 'u', 'l', 'l']
  | .bool true => ['t', 'r', 'u', 'e']
  | .bool false => ['f', 'a', 'l', 's', 'e']
  | .number n => n.text
  | .string s => quotedText s
  | .array [] => ['[', ']']
  | .array (item :: rest) => '[' :: item.chars ++ Value.itemsChars rest ++ [']']
  | .object [] => ['\x7b', '\x7d']
  | .object ((name, item) :: rest) =>
    '\x7b' :: quotedText name ++ ':' :: item.chars ++ Value.membersChars rest ++ ['\x7d']

/-- The items after the first, each after a comma. -/
def Value.itemsChars : List Value → List Char
  | [] => []
  | item :: rest => ',' :: item.chars ++ Value.itemsChars rest

/-- The members after the first, each after a comma. -/
def Value.membersChars : List (String × Value) → List Char
  | [] => []
  | (name, item) :: rest =>
    ',' :: quotedText name ++ ':' :: item.chars ++ Value.membersChars rest

end

/-- The compact text of a value. -/
def Value.text (v : Value) : String :=
  String.ofList v.chars

/-- One entry of a dictionary on a line of its own. -/
def entryLine (entry : String × String) : List Char :=
  ' ' :: ' ' :: quotedText entry.1 ++ ':' :: ' ' :: quotedText entry.2

/-- A dictionary of texts, one entry a line. -/
def entryLines : Dictionary String → List Char
  | [] => ['\x7b', '\x7d']
  | first :: rest =>
    '\x7b' :: '\n' :: entryLine first
      ++ rest.flatMap (fun entry => ',' :: '\n' :: entryLine entry) ++ ['\n', '\x7d']

end TeacherRegistry.Json
