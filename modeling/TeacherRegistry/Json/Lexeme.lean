import TeacherRegistry.Json.Numeral
import TeacherRegistry.Text.Glyph

/-!
Lexemes of JSON: the brackets, separators, words, numbers and texts of a document, in the order in
which they are written. A lexical automaton reads one unit at a time. It checks how texts and
numbers are written and leaves open what they denote, so that a value nobody asks for is held to the
grammar only.
-/

namespace TeacherRegistry.Json

open TeacherRegistry.Text (Glyph)

/-- One unit between the quotes of a text. -/
inductive TextUnit where
  /-- A character that stands for itself, or one written with a short escape. -/
  | char (c : Char)
  /-- A sixteen-bit code written as four hexadecimal digits. -/
  | code (n : Nat)
  /-- A byte that belongs to no character. -/
  | stray (b : UInt8)
deriving Repr, DecidableEq

/-- What is written between the quotes of a text. -/
abbrev RawText := List TextUnit

inductive Lexeme where
  | beginArray
  | endArray
  | beginObject
  | endObject
  | colon
  | comma
  | null
  | bool (b : Bool)
  | numeral (n : Numeral)
  | text (units : RawText)
deriving Repr, DecidableEq

/-- How far the reading of a number has come. -/
inductive NumeralStage where
  /-- After the minus sign. -/
  | sign
  /-- After a leading zero, which no digit may follow. -/
  | zero
  | whole
  /-- After the point. -/
  | point
  | fraction
  /-- After the letter of the exponent. -/
  | exponent
  /-- After the sign of the exponent. -/
  | exponentSign
  | exponentDigits
deriving Repr, DecidableEq

/-- Whether a number may end at this stage. -/
def NumeralStage.complete : NumeralStage → Bool
  | .zero | .whole | .fraction | .exponentDigits => true
  | _ => false

/-- Adds a digit to the exponent. -/
def Numeral.pushExponent (n : Numeral) (c : Char) : Numeral :=
  { n with exponent := n.exponent.map fun (negative, digits) => (negative, digits ++ [c]) }

/-- Continues a number with one more character, if the character can belong to it. -/
def NumeralStage.extend? (stage : NumeralStage) (n : Numeral) (c : Char) :
    Option (NumeralStage × Numeral) :=
  let addWhole := { n with whole := n.whole ++ [c] }
  let addFraction := { n with fraction := some (n.fraction.getD [] ++ [c]) }
  let addPoint := { n with fraction := some [] }
  let addExponent := { n with exponent := some (false, []) }
  let isExponent := c = 'e' ∨ c = 'E'
  match stage with
  | .sign =>
    if c = '0' then some (.zero, addWhole)
    else if c.isDigit then some (.whole, addWhole)
    else none
  | .zero =>
    if c = '.' then some (.point, addPoint)
    else if isExponent then some (.exponent, addExponent)
    else none
  | .whole =>
    if c.isDigit then some (.whole, addWhole)
    else if c = '.' then some (.point, addPoint)
    else if isExponent then some (.exponent, addExponent)
    else none
  | .point => if c.isDigit then some (.fraction, addFraction) else none
  | .fraction =>
    if c.isDigit then some (.fraction, addFraction)
    else if isExponent then some (.exponent, addExponent)
    else none
  | .exponent =>
    if c = '-' then some (.exponentSign, { n with exponent := some (true, []) })
    else if c = '+' then some (.exponentSign, n)
    else if c.isDigit then some (.exponentDigits, n.pushExponent c)
    else none
  | .exponentSign | .exponentDigits =>
    if c.isDigit then some (.exponentDigits, n.pushExponent c) else none

/-- What the lexical automaton is in the middle of. -/
inductive LexMode where
  | idle
  /-- In a word, with the characters that must still come. -/
  | word (rest : List Char) (lexeme : Lexeme)
  | numeral (stage : NumeralStage) (n : Numeral)
  /-- Between quotes; the units are kept last first. -/
  | text (units : RawText)
  /-- After a backslash. -/
  | escape (units : RawText)
  /-- In a sixteen-bit code, with the number of digits that must still come. -/
  | code (units : RawText) (left : Nat) (value : Nat)
deriving Repr, DecidableEq

/-- The automaton with the lexemes it has completed, last first. -/
structure Lexer where
  mode : LexMode
  done : List Lexeme
deriving Repr, DecidableEq

namespace Lexer

def start : Lexer := ⟨.idle, []⟩

/-- Completes a lexeme. -/
def emit (lexer : Lexer) (lexeme : Lexeme) : Lexer :=
  ⟨.idle, lexeme :: lexer.done⟩

/-- Reads a character that begins something. -/
def begin? (lexer : Lexer) (c : Char) : Option Lexer :=
  match c with
  | ' ' | '\n' | '\t' | '\r' => some { lexer with mode := .idle }
  | '[' => some (lexer.emit .beginArray)
  | ']' => some (lexer.emit .endArray)
  | '{' => some (lexer.emit .beginObject)
  | '}' => some (lexer.emit .endObject)
  | ':' => some (lexer.emit .colon)
  | ',' => some (lexer.emit .comma)
  | '"' => some { lexer with mode := .text [] }
  | 'n' => some { lexer with mode := .word ['u', 'l', 'l'] .null }
  | 't' => some { lexer with mode := .word ['r', 'u', 'e'] (.bool true) }
  | 'f' => some { lexer with mode := .word ['a', 'l', 's', 'e'] (.bool false) }
  | '-' => some { lexer with mode := .numeral .sign ⟨true, [], none, none⟩ }
  | c =>
    (NumeralStage.sign.extend? ⟨false, [], none, none⟩ c).map fun (stage, n) =>
      { lexer with mode := .numeral stage n }

/-- The unit that a backslash and `c` stand for, other than a code. -/
def shortEscape? (c : Char) : Option Char :=
  match c with
  | '"' | '\\' | '/' => some c
  | 'b' => some '\x08'
  | 'f' => some '\x0c'
  | 'n' => some '\n'
  | 'r' => some '\r'
  | 't' => some '\t'
  | _ => none

/-- The value of a hexadecimal digit. -/
def hexValue? (c : Char) : Option Nat :=
  if c.isDigit then some (c.toNat - '0'.toNat)
  else if 'a' ≤ c ∧ c ≤ 'f' then some (c.toNat - 'a'.toNat + 10)
  else if 'A' ≤ c ∧ c ≤ 'F' then some (c.toNat - 'A'.toNat + 10)
  else none

/-- Reads one character. -/
def readChar? (lexer : Lexer) (c : Char) : Option Lexer :=
  match lexer.mode with
  | .idle => lexer.begin? c
  | .word [] _ => none
  | .word (next :: rest) lexeme =>
    if c ≠ next then none
    else if rest = [] then some (lexer.emit lexeme)
    else some { lexer with mode := .word rest lexeme }
  | .numeral stage n =>
    match stage.extend? n c with
    | some (stage, n) => some { lexer with mode := .numeral stage n }
    | none => if stage.complete then (lexer.emit (.numeral n)).begin? c else none
  | .text units =>
    if c = '"' then some (lexer.emit (.text units.reverse))
    else if c = '\\' then some { lexer with mode := .escape units }
    else if c.toNat < 0x20 then none
    else some { lexer with mode := .text (.char c :: units) }
  | .escape units =>
    if c = 'u' then some { lexer with mode := .code units 4 0 }
    else (shortEscape? c).map fun meant => { lexer with mode := .text (.char meant :: units) }
  | .code units left value =>
    (hexValue? c).map fun digit =>
      let value := value * 16 + digit
      if left ≤ 1 then { lexer with mode := .text (.code value :: units) }
      else { lexer with mode := .code units (left - 1) value }

/-- Reads one unit. A stray byte can only stand between quotes. -/
def read? (lexer : Lexer) : Glyph → Option Lexer
  | .char c => lexer.readChar? c
  | .stray b =>
    match lexer.mode with
    | .text units => some { lexer with mode := .text (.stray b :: units) }
    | _ => none

/-- The lexemes of a text that ends here. -/
def finish? (lexer : Lexer) : Option (List Lexeme) :=
  match lexer.mode with
  | .idle => some lexer.done.reverse
  | .numeral stage n =>
    if stage.complete then some (lexer.emit (.numeral n)).done.reverse else none
  | _ => none

end Lexer

/-- The lexemes of a text, `none` if it has an ill-formed one. -/
def lexemes? (input : List Glyph) : Option (List Lexeme) := do
  (← input.foldlM Lexer.read? Lexer.start).finish?

end TeacherRegistry.Json
