import TeacherRegistry.Proofs.JsonDocuments
import TeacherRegistry.Proofs.WrittenNumerals

/-!
# How documents are written

A text writes a document if it consists of the document's lexemes in their order, with blanks before,
between and behind them. Whatever is in the document and however deep it is, the text is read as this
document, and therefore as no other.
-/

namespace TeacherRegistry.Json

/-! ### The grammar -/

/-- How the lexemes of documents are written. -/
inductive LexemeSpelled : List Char → Lexeme → Prop
  | plain {word : List Char} {lexeme : Lexeme} (written : LexemeWritten word lexeme) :
    LexemeSpelled word lexeme
  | beginArray : LexemeSpelled ['['] .beginArray
  | endArray : LexemeSpelled [']'] .endArray
  | null : LexemeSpelled ['n', 'u', 'l', 'l'] .null
  | yes : LexemeSpelled ['t', 'r', 'u', 'e'] (.bool true)
  | no : LexemeSpelled ['f', 'a', 'l', 's', 'e'] (.bool false)
  | numeral {word : List Char} {n : Numeral} (written : NumeralWritten word n) :
    LexemeSpelled word (.numeral n)

/-- A text is one document, and nothing else but blanks. -/
def WritesDocument (s : String) (d : Document) : Prop :=
  Spaced LexemeSpelled s.toList d.lexemes

/-! ### What follows a number -/

/-- The lexemes that may follow a number. -/
def Lexeme.Closes : Lexeme → Prop
  | .comma | .endArray | .endObject => True
  | _ => False

/-- The lexemes, if there are any, begin with one that may follow a number. -/
def Closing (lexemes : List Lexeme) : Prop :=
  ∀ next ∈ lexemes.head?, next.Closes

/-- Behind each number stands nothing or what may follow a number. -/
inductive Separated : List Lexeme → Prop
  | nil : Separated []
  | cons {lexeme : Lexeme} {rest : List Lexeme}
    (closing : ∀ n, lexeme = .numeral n → Closing rest) (others : Separated rest) :
    Separated (lexeme :: rest)

/-- The numbers among some lexemes are separated if the last of them is. -/
def Separable (lexemes : List Lexeme) : Prop :=
  ∀ rest, Closing rest → Separated rest → Separated (lexemes ++ rest)

theorem Separated.mark {lexeme : Lexeme} {rest : List Lexeme}
    (mark : ∀ n, lexeme ≠ .numeral n) (others : Separated rest) : Separated (lexeme :: rest) :=
  .cons (fun n same => absurd same (mark n)) others

theorem closing_cons (lexeme : Lexeme) (closes : lexeme.Closes) (rest : List Lexeme) :
    Closing (lexeme :: rest) := by
  rintro _ ⟨⟩
  exact closes

theorem Separable.intercalate {parts : List (List Lexeme)} (each : ∀ part ∈ parts, Separable part) :
    Separable ([.comma].intercalate parts) := by
  induction parts with
  | nil => exact fun rest _ separated => separated
  | cons part parts ih =>
    have first := each part List.mem_cons_self
    have others := ih fun part member => each part (List.mem_cons_of_mem _ member)
    cases parts with
    | nil =>
      rw [List.intercalate_singleton]
      exact first
    | cons next parts =>
      intro rest closing separated
      rw [List.intercalate_cons_cons, List.append_assoc, List.append_assoc, List.singleton_append]
      exact first _ (closing_cons .comma trivial _) (.mark nofun (others rest closing separated))

theorem Separable.separated {lexemes : List Lexeme} (separable : Separable lexemes) :
    Separated lexemes := by
  have separated := separable [] nofun .nil
  rwa [List.append_nil] at separated

/-- A part between two brackets. -/
private theorem Separable.enclosed {inner : List Lexeme} (separable : Separable inner)
    {before after : Lexeme} (opens : ∀ n, before ≠ .numeral n) (closes : after.Closes) :
    Separable (before :: inner ++ [after]) := by
  intro rest _ separated
  have notNumber : ∀ n, after ≠ .numeral n := by
    rintro n rfl
    exact closes
  rw [List.cons_append, List.cons_append, List.append_assoc, List.singleton_append]
  exact .mark opens (separable _ (closing_cons after closes rest) (.mark notNumber separated))

theorem Document.itemLexemes_eq (items : List Document) :
    itemLexemes items = items.map Document.lexemes := by
  induction items with
  | nil => rfl
  | cons item rest ih => rw [itemLexemes, ih, List.map_cons]

theorem Document.memberLexemes_eq (members : List (RawText × Document)) :
    memberLexemes members =
      members.map fun member => .text member.1 :: .colon :: member.2.lexemes := by
  induction members with
  | nil => rfl
  | cons member rest ih => rw [memberLexemes, ih, List.map_cons]

/-- In a document no number stands next to a value. -/
theorem Document.separable_lexemes (d : Document) : Separable d.lexemes := by
  match d with
  | .null | .bool _ | .text _ => exact fun rest _ separated => .mark nofun separated
  | .numeral n => exact fun rest closing separated => .cons (fun _ _ => closing) separated
  | .array items =>
    have each : ∀ part ∈ itemLexemes items, Separable part := by
      intro part listed
      rw [itemLexemes_eq] at listed
      obtain ⟨item, inside, rfl⟩ := List.mem_map.mp listed
      exact item.separable_lexemes
    exact (Separable.intercalate each).enclosed nofun trivial
  | .object members =>
    have each : ∀ part ∈ memberLexemes members, Separable part := by
      intro part listed
      rw [memberLexemes_eq] at listed
      obtain ⟨⟨name, item⟩, inside, rfl⟩ := List.mem_map.mp listed
      exact fun rest closing separated =>
        .mark nofun (.mark nofun (item.separable_lexemes rest closing separated))
    exact (Separable.intercalate each).enclosed nofun trivial
termination_by sizeOf d
decreasing_by
  all_goals
    have smaller := List.sizeOf_lt_of_mem inside
    simp at smaller ⊢
    omega

/-! ### Reading what is written -/

/-- What begins with a lexeme that may follow a number ends the number. -/
theorem endsNumber_of_spaced {cs rest : List Char} {lexemes : List Lexeme}
    (spaced : Spaced LexemeSpelled cs lexemes) (closing : Closing lexemes)
    (ends : EndsNumber rest) : EndsNumber (cs ++ rest) := by
  cases spaced with
  | nil => exact ends
  | blank blank _ =>
    rintro _ ⟨⟩
    exact List.mem_append_right _ blank
  | @word front _ lexeme _ first _ =>
    -- each lexeme that may follow a number is one character
    have closes : lexeme.Closes := closing lexeme rfl
    have mark (c : Char) (ends : c ∈ [',', ']', '}']) (cs : List Char) :
        EndsNumber ([c] ++ cs) := by
      rintro _ ⟨⟩
      exact List.mem_append_left _ ends
    rw [List.append_assoc]
    cases first with
    | plain written =>
      cases written with
      | endObject => exact mark '}' (by decide) _
      | comma => exact mark ',' (by decide) _
      | _ => exact closes.elim
    | endArray => exact mark ']' (by decide) _
    | _ => exact closes.elim

/-- A lexeme is read as itself, a number if its end is marked. -/
theorem finishAfter?_spelled {word : List Char} {lexeme : Lexeme}
    (spelled : LexemeSpelled word lexeme) (done : List Lexeme) {cs : List Char}
    (ends : ∀ n, lexeme = .numeral n → EndsNumber cs) :
    Lexer.finishAfter? ⟨.idle, done⟩ (word ++ cs) =
      Lexer.finishAfter? ⟨.idle, lexeme :: done⟩ cs := by
  cases spelled with
  | plain written => exact finishAfter?_lexeme written done cs
  | numeral written => exact finishAfter?_numeral written done (ends _ rfl)
  | _ => rfl

/-- What is written as some lexemes is read as these, before whatever ends a number. -/
theorem finishAfter?_spaced {cs rest : List Char} {lexemes : List Lexeme}
    (spaced : Spaced LexemeSpelled cs lexemes) (separated : Separated lexemes)
    (ends : EndsNumber rest) (done : List Lexeme) :
    Lexer.finishAfter? ⟨.idle, done⟩ (cs ++ rest) =
      Lexer.finishAfter? ⟨.idle, lexemes.reverse ++ done⟩ rest := by
  induction spaced generalizing done with
  | nil => rfl
  | blank blank _ ih =>
    rw [List.cons_append, finishAfter?_step _ (readChar?_blank done blank), ih separated]
  | word first others ih =>
    cases separated with
    | cons closing separated =>
      rw [List.append_assoc, finishAfter?_spelled first done fun n number =>
          endsNumber_of_spaced others (closing n number) ends,
        ih separated, List.reverse_cons, List.append_assoc, List.singleton_append]

/-- A text is read as the lexemes that it is written as. -/
theorem lexemes?_of_spelled {cs : List Char} {lexemes : List Lexeme}
    (spaced : Spaced LexemeSpelled cs lexemes) (separated : Separated lexemes) :
    lexemes? (cs.map .char) = some lexemes := by
  have atEnd : EndsNumber [] := nofun
  have reads := finishAfter?_spaced spaced separated atEnd []
  rw [List.append_nil, List.append_nil] at reads
  rw [lexemes?_chars, Lexer.start, reads]
  simp [Lexer.finishAfter?, Lexer.finish?]

/-- A text that writes a document is read as the document. -/
theorem WritesDocument.ofString? {s : String} {d : Document} (writes : WritesDocument s d) :
    Document.ofString? s = some d := by
  rw [Document.ofString?, Document.ofGlyphs?,
    lexemes?_of_spelled writes d.separable_lexemes.separated,
    Option.bind_eq_bind, Option.bind_some, Document.ofLexemes?_eq_some_iff]

end TeacherRegistry.Json
