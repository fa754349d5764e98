import TeacherRegistry.Log.Level
import TeacherRegistry.Text.Alphanumeric
import TeacherRegistry.Text.Blank
import TeacherRegistry.Text.ByteCut
import TeacherRegistry.Text.Integer
import TeacherRegistry.Text.LowerCase
import TeacherRegistry.Text.Pattern.Parser

/-!
Directives of filters. A directive is written `target[span{field=value}]=level`, and every part of
it may be missing; a level alone sets the threshold of every target. What is not an ill-formed
directive either has its parts where they stand in the text without the blanks around it; they are
taken from the text with the blanks, at the same numbers of bytes.
-/

namespace TeacherRegistry.Log

/-- What the value of a field is compared with. -/
inductive FieldTest where
  | truth (b : Bool)
  /-- A number, which no field of an operation is. -/
  | number
  | text (written : String) (pattern : Text.Pattern)
deriving Repr, DecidableEq

/-- A field that an operation must have, and what its value must be. -/
structure FieldCondition where
  name : String
  test : Option FieldTest
deriving Repr, DecidableEq

/-- What a directive is about: targets that start with a text, operations of a name, and operations
and events with a field. -/
structure Scope where
  target : Option String
  span : Option String
  field : Option FieldCondition
deriving Repr, DecidableEq

/-- Admits what is in a scope up to a rank. -/
structure Directive where
  scope : Scope
  threshold : Nat
deriving Repr, DecidableEq

/-- Why a text is no directive. -/
inductive Directive.Fault where
  | malformed
  /-- A part of it would begin or end inside a character. -/
  | cutCharacter
deriving Repr, DecidableEq

/-- The names of thresholds, in the order of their ranks. -/
def thresholdNames : List String :=
  ["off", "error", "warn", "info", "debug", "trace"]

/-- The threshold that a text names, in words or as a number. -/
def threshold? (s : String) : Option Nat :=
  (Text.natural? thresholdNames.length s).or
    (thresholdNames.findIdx? (Text.equalIgnoringAsciiCase s))

/-- Passes a sign. -/
def passSign : List Char → List Char
  | '+' :: rest | '-' :: rest => rest
  | cs => cs

/-- Whether a text is a number in decimal digits, or names one that is none or is infinite. -/
def isDecimal (s : String) : Bool :=
  let unsigned := passSign s.toList
  let whole := unsigned.takeWhile Char.isDigit
  let (fraction, rest) := match unsigned.dropWhile Char.isDigit with
    | '.' :: rest => (rest.takeWhile Char.isDigit, rest.dropWhile Char.isDigit)
    | rest => ([], rest)
  let exponent := match rest with
    | [] => true
    | e :: rest => e.toLower == 'e' && (Text.digits? (passSign rest)).isSome
  (whole ++ fraction ≠ [] && exponent)
    || ["inf", "infinity", "nan"].any (Text.equalIgnoringAsciiCase (String.ofList unsigned))

/-- The test that the text of a value spells, if it is one. -/
def FieldTest.ofString? (s : String) : Option FieldTest :=
  if s = "true" then some (.truth true)
  else if s = "false" then some (.truth false)
  else if isDecimal s then some .number
  else (Text.Pattern.ofString? s).map (.text s)

/-- The condition that a text between braces spells. What follows a second equals sign counts for
nothing. -/
def FieldCondition.ofString? (s : String) : Option FieldCondition :=
  match s.toList.splitOn '=' with
  | [] | [[]] => none
  | [name] => some ⟨String.ofList name, none⟩
  | name :: value :: _ =>
    (FieldTest.ofString? (String.ofList value)).map fun test => ⟨String.ofList name, some test⟩

namespace Directive

/-- How far a directive has been read. Numbers of bytes say where the present part began. -/
inductive Reading where
  | start
  /-- In what is either a level or a target. -/
  | front (mark : Nat)
  | span (target : Option String) (mark : Nat)
  | field (scope : Scope) (mark : Nat)
  /-- Before the bracket that closes the scope. -/
  | closing (scope : Scope)
  | closed (scope : Scope)
  | level (scope : Scope) (mark : Nat)
deriving Repr, DecidableEq

/-- The part of a text between two byte counts. -/
def part (text : List Char) (mark stop : Nat) : Except Fault String :=
  match Text.betweenBytes? text mark stop with
  | some cs => .ok (String.ofList cs)
  | none => .error .cutCharacter

/-- The part of a text from a byte count on. -/
def lastPart (text : List Char) (mark : Nat) : Except Fault String :=
  part text mark (Text.byteCount text)

/-- A value that must be there. -/
def wellFormed {α : Type} (value : Option α) : Except Fault α :=
  value.elim (.error .malformed) .ok

/-- Whether a directive may start with this character, a bracket apart. -/
def isStart (c : Char) : Bool :=
  Text.isAlphanumeric c || c == '_' || c == '-' || c == ':'

/-- Reads one more character, at a place counted in bytes. -/
def Reading.next (text : List Char) (place : Nat) (c : Char) :
    Reading → Except Fault Reading
  | .start =>
    if c = '[' then .ok (.span none (place + 1))
    else if isStart c then .ok (.front place)
    else .error .malformed
  | .front mark =>
    if c = '=' then
      (part text mark place).map fun target => .level ⟨some target, none, none⟩ (place + 1)
    else if c = '[' then (part text mark place).map fun target => .span (some target) (place + 1)
    else .ok (.front mark)
  | .span target mark =>
    if c = ']' then
      (part text mark place).map fun span => .closed ⟨target, some span, none⟩
    else if c = '\x7b' then
      (part text mark place).map fun span =>
        .field ⟨target, if span = "" then none else some span, none⟩ (place + 1)
    else .ok (.span target mark)
  | .field scope mark =>
    if c = '\x7d' then do
      let condition ← wellFormed (FieldCondition.ofString? (← part text mark place))
      return .closing { scope with field := some condition }
    else .ok (.field scope mark)
  | .closing scope => if c = ']' then .ok (.closed scope) else .error .malformed
  | .closed scope => if c = '=' then .ok (.level scope (place + 1)) else .error .malformed
  | .level scope mark => .ok (.level scope mark)

/-- Reads characters from a place on. -/
def readFrom (text : List Char) : Reading → Nat → List Char → Except Fault Reading
  | reading, _, [] => .ok reading
  | reading, place, c :: rest => do
    readFrom text (← reading.next text place c) (place + c.utf8Size) rest

/-- The directive that has been read when its text ends. -/
def Reading.finish (text : List Char) : Reading → Except Fault Directive
  | .front mark => (lastPart text mark).map fun word =>
    match threshold? word with
    | some threshold => ⟨⟨none, none, none⟩, threshold⟩
    | none => ⟨⟨some word, none, none⟩, Level.trace.rank⟩
  | .closed scope => .ok ⟨scope, Level.trace.rank⟩
  | .level scope mark => do
    let word ← lastPart text mark
    if word = "" then return ⟨scope, Level.trace.rank⟩
    return ⟨scope, ← wellFormed (threshold? word)⟩
  | .start | .span .. | .field .. | .closing _ => .error .malformed

/-- The directive a text spells. -/
def ofString (s : String) : Except Fault Directive := do
  let text := s.toList
  (← readFrom text .start 0 (Text.trimBoth Text.isBlankChar text)).finish text

end Directive

end TeacherRegistry.Log
