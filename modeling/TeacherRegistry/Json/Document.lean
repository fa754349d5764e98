import TeacherRegistry.Json.Lexeme

/-!
Documents: JSON as it is written, with members in their order, repeated names kept, and texts and
numbers not yet interpreted. A stack of open containers reads one lexeme at a time, so documents of
any depth are read.
-/

namespace TeacherRegistry.Json

open TeacherRegistry.Text (Glyph glyphs)

inductive Document where
  | null
  | bool (b : Bool)
  | numeral (n : Numeral)
  | text (units : RawText)
  | array (items : List Document)
  | object (members : List (RawText × Document))
deriving Repr

/-- A container that is still open, waiting for a value; what it holds is kept last first. -/
inductive OpenContainer where
  | array (items : List Document)
  | object (members : List (RawText × Document)) (name : RawText)
deriving Repr

/-- What may come next. -/
inductive Reader where
  | awaitValue (stack : List OpenContainer)
  /-- The first item of an array, or its end. -/
  | awaitItem (stack : List OpenContainer)
  /-- The first name of an object, or its end. -/
  | awaitMember (stack : List OpenContainer)
  | awaitName (members : List (RawText × Document)) (stack : List OpenContainer)
  | awaitColon (members : List (RawText × Document)) (name : RawText) (stack : List OpenContainer)
  /-- What follows a value that is complete. -/
  | complete (value : Document) (stack : List OpenContainer)
deriving Repr

namespace Reader

/-- Reads a lexeme where a value must begin. -/
def beginValue? (stack : List OpenContainer) : Lexeme → Option Reader
  | .null => some (.complete .null stack)
  | .bool b => some (.complete (.bool b) stack)
  | .numeral n => some (.complete (.numeral n) stack)
  | .text units => some (.complete (.text units) stack)
  | .beginArray => some (.awaitItem stack)
  | .beginObject => some (.awaitMember stack)
  | _ => none

/-- Reads a lexeme after a complete value, in the innermost open container. -/
def continue? (value : Document) : List OpenContainer → Lexeme → Option Reader
  | .array items :: stack, .comma => some (.awaitValue (.array (value :: items) :: stack))
  | .array items :: stack, .endArray =>
    some (.complete (.array (value :: items).reverse) stack)
  | .object members name :: stack, .comma => some (.awaitName ((name, value) :: members) stack)
  | .object members name :: stack, .endObject =>
    some (.complete (.object ((name, value) :: members).reverse) stack)
  | _, _ => none

/-- Reads one lexeme. -/
def read? : Reader → Lexeme → Option Reader
  | .awaitValue stack, lexeme => beginValue? stack lexeme
  | .awaitItem stack, .endArray => some (.complete (.array []) stack)
  | .awaitItem stack, lexeme => beginValue? (.array [] :: stack) lexeme
  | .awaitMember stack, .endObject => some (.complete (.object []) stack)
  | .awaitMember stack, .text label => some (.awaitColon [] label stack)
  | .awaitName members stack, .text label => some (.awaitColon members label stack)
  | .awaitColon members label stack, .colon => some (.awaitValue (.object members label :: stack))
  | .complete value stack, lexeme => continue? value stack lexeme
  | _, _ => none

/-- The document that ends here. -/
def finish? : Reader → Option Document
  | .complete value [] => some value
  | _ => none

end Reader

namespace Document

/-- The document written by a list of lexemes. -/
def ofLexemes? (lexemes : List Lexeme) : Option Document := do
  (← lexemes.foldlM Reader.read? (.awaitValue [])).finish?

/-- The document written by a list of text units. -/
def ofGlyphs? (input : List Glyph) : Option Document :=
  lexemes? input >>= ofLexemes?

/-- The document a text holds. -/
def ofString? (s : String) : Option Document :=
  ofGlyphs? (s.toList.map .char)

/-- The document that bytes hold. -/
def ofBytes? (bytes : ByteArray) : Option Document :=
  ofGlyphs? (glyphs bytes)

theorem ofBytes?_toUTF8 (s : String) : ofBytes? s.toUTF8 = ofString? s := by
  simp only [ofBytes?, ofString?, Text.glyphs_toUTF8]

end Document

end TeacherRegistry.Json
