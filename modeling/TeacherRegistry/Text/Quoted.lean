import TeacherRegistry.Text.Quoted.Table

/-!
Texts quoted for a reader: between double quotes, with everything that would be invisible or
ambiguous spelled out.
-/

namespace TeacherRegistry.Text

/-- Hexadecimal digits of `n` in lower case, without leading zeros. -/
def hexDigits (n : Nat) : List Char :=
  Nat.toDigits 16 n

/-- How one character stands between the quotes. -/
def quoteChar (c : Char) : List Char :=
  match c with
  | '\x00' => ['\\', '0']
  | '\t' => ['\\', 't']
  | '\r' => ['\\', 'r']
  | '\n' => ['\\', 'n']
  | '\\' => ['\\', '\\']
  | '"' => ['\\', '"']
  | c =>
    if inRanges graphemeExtendRanges c || inRanges unprintableRanges c then
      "\\u\x7b".toList ++ hexDigits c.toNat ++ ['}']
    else [c]

/-- A text between double quotes. -/
def quoted (s : String) : String :=
  String.ofList ('"' :: s.toList.flatMap quoteChar ++ ['"'])

end TeacherRegistry.Text
