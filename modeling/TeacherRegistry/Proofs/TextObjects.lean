import TeacherRegistry.Proofs.JsonDocuments
import TeacherRegistry.Proofs.StoreLaws
import TeacherRegistry.Proofs.Utf8

/-!
# Objects of texts

Bytes that are an object of texts for the reader of documents are the bytes of a text that writes
this object by the grammar, and of nothing else: a brace, members with a comma between them, a brace,
and blanks wherever they are allowed.
-/

namespace TeacherRegistry.Json

/-! ### The grammar -/

/-- The text that is meant by what stands between quotes. A code is a character, or one half of a
character whose other half follows; a half that is left alone means no text. -/
inductive Spells : List Char → List Char → Prop
  | nil : Spells [] []
  | char {word written meant : List Char} {c : Char} (first : UnitWritten word (.char c))
    (rest : Spells written meant) : Spells (word ++ written) (c :: meant)
  | code {word written meant : List Char} {n : Nat} (first : UnitWritten word (.code n))
    (notHigh : isHighHalf n = false) (notLow : isLowHalf n = false) (rest : Spells written meant) :
    Spells (word ++ written) (Char.ofNat n :: meant)
  | pair {word next written meant : List Char} {high low : Nat}
    (first : UnitWritten word (.code high)) (second : UnitWritten next (.code low))
    (isHigh : isHighHalf high = true) (isLow : isLowHalf low = true)
    (rest : Spells written meant) :
    Spells (word ++ (next ++ written)) (joinHalves high low :: meant)

/-- What an object of texts is made of. -/
inductive Token where
  | mark (c : Char)
  | text (s : String)

inductive TokenWritten : List Char → Token → Prop
  | mark {c : Char} (punctuation : c ∈ ['{', '}', ':', ',']) : TokenWritten [c] (.mark c)
  | text {body : List Char} {s : String} (spells : Spells body s.toList) :
    TokenWritten ('"' :: body ++ ['"']) (.text s)

/-- The tokens of a member of an object. -/
def memberTokens (pair : String × String) : List Token :=
  [.text pair.1, .mark ':', .text pair.2]

/-- The tokens of an object of texts. -/
def objectTokens (pairs : List (String × String)) : List Token :=
  .mark '{' :: [.mark ','].intercalate (pairs.map memberTokens) ++ [.mark '}']

/-- A text is one object whose members, in the order in which they are written, are these texts. -/
def WritesObject (s : String) (pairs : List (String × String)) : Prop :=
  Spaced TokenWritten s.toList (objectTokens pairs)

/-! ### What the units between quotes mean -/

theorem exists_units_of_spells {body meant : List Char} (spells : Spells body meant) :
    ∃ units, UnitsWritten body units ∧ RawText.chars? units = some meant := by
  induction spells with
  | nil => exact ⟨[], .nil, rfl⟩
  | @char _ _ _ c first _ ih =>
    obtain ⟨units, written, read⟩ := ih
    exact ⟨.char c :: units, .cons first written, by rw [RawText.chars?, read, Option.map_some]⟩
  | @code _ _ _ n first notHigh notLow _ ih =>
    obtain ⟨units, written, read⟩ := ih
    exact ⟨.code n :: units, .cons first written, by
      rw [chars?_code notHigh notLow, read, Option.map_some]⟩
  | pair first second isHigh isLow _ ih =>
    obtain ⟨units, written, read⟩ := ih
    refine ⟨_, .cons first (.cons second written), ?_⟩
    rw [RawText.chars?, if_pos isHigh, if_pos isLow, read, Option.map_some]

theorem spells_of_units {body meant : List Char} {units : RawText}
    (written : UnitsWritten body units) (read : RawText.chars? units = some meant) :
    Spells body meant := by
  fun_induction RawText.chars? units generalizing body meant with
  | case1 =>
    cases written
    cases read
    exact .nil
  | case2 c rest ih =>
    obtain ⟨chars, others, rfl⟩ := Option.map_eq_some_iff.mp read
    cases written with
    | cons first written => exact .char first (ih written others)
  | case3 => cases read
  | case4 high low rest isHigh isLow ih =>
    obtain ⟨chars, others, rfl⟩ := Option.map_eq_some_iff.mp read
    cases written with
    | cons first written =>
      cases written with
      | cons second written => exact .pair first second isHigh isLow (ih written others)
  | case5 => cases read
  | case6 => cases read
  | case7 high low rest notHigh notLow ih =>
    obtain ⟨chars, others, rfl⟩ := Option.map_eq_some_iff.mp read
    cases written with
    | cons first written =>
      exact .code first (Bool.eq_false_iff.mpr notHigh) (Bool.eq_false_iff.mpr notLow)
        (ih written others)
  | case8 => cases read
  | case9 n rest single whole ih =>
    obtain ⟨chars, others, rfl⟩ := Option.map_eq_some_iff.mp read
    rw [Bool.or_eq_true, not_or] at whole
    cases written with
    | cons first written =>
      exact .code first (Bool.eq_false_iff.mpr whole.1) (Bool.eq_false_iff.mpr whole.2)
        (ih written others)

theorem chars?_of_stray {units : RawText} {b : UInt8} (inside : .stray b ∈ units) :
    RawText.chars? units = none := by
  fun_induction RawText.chars? units <;> simp_all

/-! ### Lexemes and tokens -/

/-- The token that a lexeme is. -/
inductive Means : Lexeme → Token → Prop
  | beginObject : Means .beginObject (.mark '{')
  | endObject : Means .endObject (.mark '}')
  | colon : Means .colon (.mark ':')
  | comma : Means .comma (.mark ',')
  | text {units : RawText} {s : String} (read : units.string? = some s) :
    Means (.text units) (.text s)

theorem chars?_of_string {units : RawText} {s : String} (read : units.string? = some s) :
    RawText.chars? units = some s.toList := by
  obtain ⟨chars, meant, rfl⟩ := Option.map_eq_some_iff.mp read
  rw [meant, String.toList_ofList]

theorem Means.plain {lexeme : Lexeme} {token : Token} (means : Means lexeme token) :
    lexeme.Plain := by
  cases means with
  | text read =>
    intro b inside
    rw [RawText.string?, chars?_of_stray inside] at read
    cases read
  | _ => trivial

theorem plain_of_means {lexemes : List Lexeme} {tokens : List Token}
    (means : List.Forall₂ Means lexemes tokens) : ∀ lexeme ∈ lexemes, lexeme.Plain := by
  induction means with
  | nil => exact List.forall_mem_nil _
  | cons this _ ih => exact List.forall_mem_cons.mpr ⟨this.plain, ih⟩

theorem tokenWritten_of_means {word : List Char} {lexeme : Lexeme} {token : Token}
    (written : LexemeWritten word lexeme) (means : Means lexeme token) :
    TokenWritten word token := by
  cases means with
  | text read =>
    cases written with
    | text written => exact .text (spells_of_units written (chars?_of_string read))
  | _ =>
    cases written
    exact .mark (by decide)

theorem exists_lexeme_of_token {word : List Char} {token : Token}
    (written : TokenWritten word token) :
    ∃ lexeme, LexemeWritten word lexeme ∧ Means lexeme token := by
  cases written with
  | text spells =>
    obtain ⟨units, written, read⟩ := exists_units_of_spells spells
    exact ⟨.text units, .text written, .text (by
      rw [RawText.string?, read, Option.map_some, String.ofList_toList])⟩
  | mark punctuation =>
    simp only [List.mem_cons, List.not_mem_nil, or_false] at punctuation
    rcases punctuation with rfl | rfl | rfl | rfl
    · exact ⟨_, .beginObject, .beginObject⟩
    · exact ⟨_, .endObject, .endObject⟩
    · exact ⟨_, .colon, .colon⟩
    · exact ⟨_, .comma, .comma⟩

theorem Spaced.tokens {cs : List Char} {lexemes : List Lexeme} {tokens : List Token}
    (spaced : Spaced LexemeWritten cs lexemes) (means : List.Forall₂ Means lexemes tokens) :
    Spaced TokenWritten cs tokens := by
  induction spaced generalizing tokens with
  | nil =>
    cases means
    exact .nil
  | blank blank _ ih => exact .blank blank (ih means)
  | word first _ ih =>
    cases means with
    | cons this means => exact .word (tokenWritten_of_means first this) (ih means)

theorem Spaced.exists_lexemes {cs : List Char} {tokens : List Token}
    (spaced : Spaced TokenWritten cs tokens) :
    ∃ lexemes, Spaced LexemeWritten cs lexemes ∧ List.Forall₂ Means lexemes tokens := by
  induction spaced with
  | nil => exact ⟨[], .nil, .nil⟩
  | blank blank _ ih =>
    obtain ⟨lexemes, spaced, means⟩ := ih
    exact ⟨lexemes, .blank blank spaced, means⟩
  | word first _ ih =>
    obtain ⟨lexemes, spaced, means⟩ := ih
    obtain ⟨lexeme, written, this⟩ := exists_lexeme_of_token first
    exact ⟨lexeme :: lexemes, .word written spaced, .cons this means⟩

/-! ### The lexemes of an object -/

theorem means_member {member : RawText × Document} {pair : String × String}
    (first : member.1.string? = some pair.1)
    (second : ∃ units, member.2 = .text units ∧ units.string? = some pair.2) :
    List.Forall₂ Means (.text member.1 :: .colon :: member.2.lexemes) (memberTokens pair) := by
  obtain ⟨units, text, second⟩ := second
  rw [text]
  exact .cons (.text first) (.cons .colon (.cons (.text second) .nil))

theorem exists_member_of_means {lexemes : List Lexeme} {pair : String × String}
    {tokens : List Token}
    (means : List.Forall₂ Means lexemes (memberTokens pair ++ tokens)) :
    ∃ (member : RawText × Document) (rest : List Lexeme),
      lexemes = .text member.1 :: .colon :: member.2.lexemes ++ rest ∧
      (member.1.string? = some pair.1 ∧
        ∃ units, member.2 = .text units ∧ units.string? = some pair.2) ∧
      List.Forall₂ Means rest tokens := by
  simp only [memberTokens, List.cons_append, List.nil_append] at means
  rcases means with _ | ⟨label, _ | ⟨between, _ | ⟨value, means⟩⟩⟩
  cases between
  cases label with
  | @text label _ readLabel =>
    cases value with
    | @text units _ readUnits =>
      exact ⟨(label, .text units), _, rfl, ⟨readLabel, units, rfl, readUnits⟩, means⟩

theorem means_members {members : List (RawText × Document)} {pairs : List (String × String)}
    (holds : Store.HoldsPairs members pairs) :
    List.Forall₂ Means ([.comma].intercalate (Document.memberLexemes members))
      ([.mark ','].intercalate (pairs.map memberTokens)) := by
  induction holds with
  | nil => exact .nil
  | cons first rest ih =>
    have member := means_member first.1 first.2
    cases rest with
    | nil =>
      simp only [Document.memberLexemes, List.map_cons, List.map_nil, List.intercalate_singleton]
      exact member
    | cons second rest =>
      simp only [Document.memberLexemes, List.map_cons, List.intercalate_cons_cons] at ih ⊢
      exact List.rel_append (List.rel_append member (.cons .comma .nil)) ih

theorem exists_members_of_means {lexemes : List Lexeme} {pairs : List (String × String)}
    {tokens : List Token}
    (means : List.Forall₂ Means lexemes
      ([.mark ','].intercalate (pairs.map memberTokens) ++ tokens)) :
    ∃ members rest, lexemes = [.comma].intercalate (Document.memberLexemes members) ++ rest ∧
      Store.HoldsPairs members pairs ∧ List.Forall₂ Means rest tokens := by
  induction pairs generalizing lexemes with
  | nil => exact ⟨[], lexemes, rfl, .nil, means⟩
  | cons pair pairs ih =>
    cases pairs with
    | nil =>
      rw [List.map_cons, List.map_nil, List.intercalate_singleton] at means
      obtain ⟨member, rest, rfl, holds, last⟩ := exists_member_of_means means
      refine ⟨[member], rest, ?_, .cons holds .nil, last⟩
      rw [Document.memberLexemes, Document.memberLexemes, List.intercalate_singleton]
    | cons next pairs =>
      simp only [List.map_cons, List.intercalate_cons_cons, List.append_assoc] at means ih
      obtain ⟨member, _, rfl, holds, more⟩ := exists_member_of_means means
      rcases more with _ | ⟨between, more⟩
      cases between
      obtain ⟨members, rest, rfl, others, last⟩ := ih more
      refine ⟨member :: members, rest, ?_, .cons holds others, last⟩
      rcases others with _ | ⟨_, _⟩
      simp only [Document.memberLexemes, List.intercalate_cons_cons, List.append_assoc,
        List.cons_append, List.nil_append]

/-- What an object of texts says in its lexemes it says in its tokens. -/
theorem means_object {members : List (RawText × Document)} {pairs : List (String × String)}
    (holds : Store.HoldsPairs members pairs) :
    List.Forall₂ Means (Document.object members).lexemes (objectTokens pairs) := by
  rw [Document.lexemes, objectTokens]
  exact .cons .beginObject (List.rel_append (means_members holds) (.cons .endObject .nil))

theorem exists_object_of_means {lexemes : List Lexeme} {pairs : List (String × String)}
    (means : List.Forall₂ Means lexemes (objectTokens pairs)) :
    ∃ members, lexemes = (Document.object members).lexemes ∧ Store.HoldsPairs members pairs := by
  rcases means with _ | ⟨opening, means⟩
  obtain ⟨members, _, rfl, holds, last⟩ := exists_members_of_means means
  rcases last with _ | ⟨closing, _ | _⟩
  cases opening
  cases closing
  exact ⟨members, rfl, holds⟩

/-! ### Objects of texts in bytes -/

/-- Bytes are one object of texts, and of nothing else, if they are the bytes of a text that writes
it. -/
theorem document_of_object_iff (bytes : ByteArray) (pairs : List (String × String)) :
    (∃ members, Document.ofBytes? bytes = some (.object members) ∧
        Store.HoldsPairs members pairs) ↔
      ∃ s : String, bytes = s.toUTF8 ∧ WritesObject s pairs := by
  constructor
  · rintro ⟨members, read, holds⟩
    obtain ⟨lexemes, lexed, read⟩ := Option.bind_eq_some_iff.mp read
    rw [Document.ofLexemes?_eq_some_iff] at read
    subst read
    have means := means_object holds
    obtain ⟨cs, input, spaced⟩ := written_of_lexemes lexed (plain_of_means means)
    refine ⟨String.ofList cs, ?_, ?_⟩
    · rw [← Text.glyphs_eq_chars_iff, String.toList_ofList, input]
    · rw [WritesObject, String.toList_ofList]
      exact spaced.tokens means
  · rintro ⟨s, rfl, written⟩
    obtain ⟨lexemes, spaced, means⟩ := Spaced.exists_lexemes written
    obtain ⟨members, rfl, holds⟩ := exists_object_of_means means
    refine ⟨members, ?_, holds⟩
    rw [Document.ofBytes?, Text.glyphs_toUTF8, Document.ofGlyphs?, lexemes?_of_written spaced,
      Option.bind_eq_bind, Option.bind_some, Document.ofLexemes?_eq_some_iff]

end TeacherRegistry.Json
