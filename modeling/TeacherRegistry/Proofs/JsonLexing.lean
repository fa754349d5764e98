import TeacherRegistry.Json.Printer
import TeacherRegistry.Proofs.WrittenDocuments

/-!
# Written values and their documents

The compact text of a value writes the document of the value. Numbers that are not whole are left
out, because their texts are found by search.
-/

namespace TeacherRegistry.Json

/-! ### Texts between quotes -/

/-- The unit that a character is written as between quotes: controls without a short escape are
written as codes. -/
def unitOf (c : Char) : TextUnit :=
  if c.toNat < 0x20 ∧ c ∉ ['\x08', '\x0c', '\n', '\r', '\t'] then .code c.toNat else .char c

/-- What is written between the quotes of a text. -/
def rawText (s : String) : RawText := s.toList.map unitOf

private theorem hexValue?_hexDigit : ∀ n < 16, Lexer.hexValue? (hexDigit n) = some n := by
  decide

private theorem hexNumber?_code {n : Nat} (small : n < 256) :
    hexNumber? ['0', '0', hexDigit (n / 16), hexDigit (n % 16)] = some n := by
  have zero : Lexer.hexValue? '0' = some 0 := rfl
  have whole : n / 16 * 16 + n % 16 = n := by omega
  simp [hexNumber?, zero, hexValue?_hexDigit (n / 16) (by omega),
    hexValue?_hexDigit (n % 16) (by omega), whole]

private theorem unitWritten_escapeChar (c : Char) : UnitWritten (escapeChar c) (unitOf c) := by
  unfold escapeChar
  split
  -- the last case is that of all characters without a short escape
  case h_8 notQuote notBackslash notBackspace notFeed notLine notReturn notTab =>
    by_cases control : c.toNat < 0x20
    · have coded : unitOf c = .code c.toNat := by
        simp only [unitOf, List.mem_cons, List.not_mem_nil, or_false, not_or, control, true_and]
        exact if_pos ⟨notBackspace, notFeed, notLine, notReturn, notTab⟩
      rw [if_pos control, coded]
      exact .code rfl (hexNumber?_code (by omega))
    · have plain : unitOf c = .char c := if_neg fun h => control h.1
      rw [if_neg control, plain]
      exact .plain (Nat.not_lt.mp control) notQuote notBackslash
  all_goals exact .short (by decide)

/-- A quoted text is written as one lexeme. -/
theorem lexemeWritten_quotedText (s : String) :
    LexemeWritten (quotedText s) (.text (rawText s)) := by
  have units (cs : List Char) : UnitsWritten (cs.flatMap escapeChar) (cs.map unitOf) := by
    induction cs with
    | nil => exact .nil
    | cons c rest ih => exact .cons (unitWritten_escapeChar c) ih
  exact .text (units s.toList)

/-- A code that is no half of a pair is a character by itself. -/
theorem chars?_code {n : Nat} (notHigh : isHighHalf n = false) (notLow : isLowHalf n = false)
    (rest : RawText) :
    RawText.chars? (.code n :: rest) = (RawText.chars? rest).map (Char.ofNat n :: ·) := by
  cases rest with
  | nil => simp [RawText.chars?, notHigh, notLow]
  | cons unit rest => cases unit <;> simp [RawText.chars?, notHigh, notLow]

private theorem chars?_unit (c : Char) (rest : RawText) :
    RawText.chars? (unitOf c :: rest) = (RawText.chars? rest).map (c :: ·) := by
  by_cases coded : c.toNat < 0x20 ∧ c ∉ ['\x08', '\x0c', '\n', '\r', '\t']
  -- a code this small is no half of a pair
  · have notHigh : isHighHalf c.toNat = false := by simp [isHighHalf]; omega
    have notLow : isLowHalf c.toNat = false := by simp [isLowHalf]; omega
    rw [unitOf, if_pos coded, chars?_code notHigh notLow, Char.ofNat_toNat]
  · rw [unitOf, if_neg coded]
    rfl

/-- The text that is written between quotes is the text that is meant. -/
theorem string?_rawText (s : String) : RawText.string? (rawText s) = some s := by
  have meant (cs : List Char) : RawText.chars? (cs.map unitOf) = some cs := by
    induction cs with
    | nil => rfl
    | cons c rest ih => rw [List.map_cons, chars?_unit, ih, Option.map_some]
  rw [RawText.string?, rawText, meant, Option.map_some, String.ofList_toList]

/-! ### Whole numbers -/

/-- The numeral that a whole number is written as. -/
def Numeral.ofInt (n : Int) : Numeral :=
  ⟨decide (n < 0), Nat.toDigits 10 n.natAbs, none, none⟩

private theorem head_toDigits_ne_zero {n : Nat} (positive : 0 < n) :
    (Nat.toDigits 10 n).head? ≠ some '0' := by
  -- all but the last digit are those of a tenth, which is positive unless there is one digit only
  induction n using Nat.strongRecOn with
  | ind n ih =>
    by_cases small : n < 10
    · have single : ∀ k < 10, 0 < k → [Nat.digitChar k].head? ≠ some '0' := by decide
      rw [Nat.toDigits_of_lt_base small]
      exact single n small positive
    · intro zero
      rw [Nat.toDigits_of_base_le (by decide) (by omega), List.head?_append,
        Option.or_eq_some_iff] at zero
      rcases zero with leading | ⟨missing, _⟩
      · exact ih (n / 10) (by omega) (by omega) leading
      · exact Nat.toDigits_ne_nil (List.head?_eq_none_iff.mp missing)

theorem toDigits_lead (n : Nat) : ∃ digit digits, Nat.toDigits 10 n = digit :: digits ∧
    (∀ c ∈ digit :: digits, c.isDigit = true) ∧ (digit = '0' → digits = []) := by
  cases written : Nat.toDigits 10 n with
  | nil => exact absurd written Nat.toDigits_ne_nil
  | cons digit digits =>
    refine ⟨digit, digits, rfl, fun c member => ?_, fun zero => ?_⟩
    -- only the number zero begins with the digit zero
    · exact Nat.isDigit_of_mem_toDigits (by decide) (by decide) (written ▸ member)
    · rcases Nat.eq_zero_or_pos n with rfl | positive
      · rw [Nat.toDigits_zero] at written
        exact (List.cons.inj written).2.symm
      · have notZero := head_toDigits_ne_zero positive
        rw [written, zero] at notZero
        exact absurd rfl notZero

/-- The text of a whole number is written as one number. -/
theorem numeralWritten_integerText (n : Int) : NumeralWritten (integerText n) (.ofInt n) := by
  obtain ⟨digit, digits, written, all, lead⟩ := toDigits_lead n.natAbs
  have whole : WholeWritten (Nat.toDigits 10 n.natAbs) := written ▸ .digits all lead
  by_cases negative : n < 0
  · have signed := @NumeralWritten.parts true _ _ _ _ _ whole .none .none
    rw [if_pos rfl, List.append_nil, List.append_nil] at signed
    rw [integerText, if_pos negative, Numeral.ofInt, decide_eq_true negative]
    exact signed
  · have unsigned := @NumeralWritten.parts false _ _ _ _ _ whole .none .none
    rw [if_neg Bool.false_ne_true, List.append_nil, List.append_nil] at unsigned
    rw [integerText, if_neg negative, Numeral.ofInt, decide_eq_false negative]
    exact unsigned

/-! ### Values -/

/-- The values whose numbers are all whole. -/
inductive Value.Whole : Value → Prop
  | null : Whole .null
  | bool (b : Bool) : Whole (.bool b)
  | integer (n : Int) : Whole (.number (.integer n))
  | string (s : String) : Whole (.string s)
  | array (items : List Value) (whole : ∀ item ∈ items, Whole item) : Whole (.array items)
  | object (members : List (String × Value)) (whole : ∀ entry ∈ members, Whole entry.2) :
    Whole (.object members)

mutual

/-- The lexemes of the compact text of a value. Numbers that are not whole are passed over. -/
def Value.lexemes : Value → List Lexeme
  | .null => [.null]
  | .bool b => [.bool b]
  | .number (.integer n) => [.numeral (.ofInt n)]
  | .number (.real _) => []
  | .string s => [.text (rawText s)]
  | .array [] => [.beginArray, .endArray]
  | .array (item :: rest) =>
    .beginArray :: item.lexemes ++ Value.itemsLexemes rest ++ [.endArray]
  | .object [] => [.beginObject, .endObject]
  | .object ((name, item) :: rest) =>
    .beginObject :: .text (rawText name) :: .colon :: item.lexemes
      ++ Value.membersLexemes rest ++ [.endObject]

/-- The lexemes of the items after the first, each after a comma. -/
def Value.itemsLexemes : List Value → List Lexeme
  | [] => []
  | item :: rest => .comma :: item.lexemes ++ Value.itemsLexemes rest

/-- The lexemes of the members after the first, each after a comma. -/
def Value.membersLexemes : List (String × Value) → List Lexeme
  | [] => []
  | (name, item) :: rest =>
    .comma :: .text (rawText name) :: .colon :: item.lexemes ++ Value.membersLexemes rest

end

mutual

/-- The document that the compact text of a value is. Numbers that are not whole are passed over. -/
def Value.document : Value → Document
  | .null => .null
  | .bool b => .bool b
  | .number (.integer n) => .numeral (.ofInt n)
  | .number (.real _) => .null
  | .string s => .text (rawText s)
  | .array items => .array (Value.itemDocuments items)
  | .object members => .object (Value.memberDocuments members)

def Value.itemDocuments : List Value → List Document
  | [] => []
  | item :: rest => item.document :: Value.itemDocuments rest

def Value.memberDocuments : List (String × Value) → List (RawText × Document)
  | [] => []
  | (name, item) :: rest => (rawText name, item.document) :: Value.memberDocuments rest

end

private theorem intercalate_itemDocuments (item : Value) (items : List Value)
    (each : ∀ v ∈ item :: items, v.document.lexemes = v.lexemes) :
    [.comma].intercalate (Document.itemLexemes (Value.itemDocuments (item :: items))) =
      item.lexemes ++ Value.itemsLexemes items := by
  have first := each item List.mem_cons_self
  induction items generalizing item with
  | nil =>
    simp only [Value.itemDocuments, Document.itemLexemes, List.intercalate_singleton, first,
      Value.itemsLexemes, List.append_nil]
  | cons next items ih =>
    have others := fun v member => each v (List.mem_cons_of_mem _ member)
    have rest := ih next others (others next List.mem_cons_self)
    simp only [Value.itemDocuments, Document.itemLexemes, List.intercalate_cons_cons] at rest ⊢
    rw [first, rest, Value.itemsLexemes, List.append_assoc, List.singleton_append,
      List.cons_append]

private theorem intercalate_memberDocuments (entry : String × Value)
    (members : List (String × Value))
    (each : ∀ e ∈ entry :: members, e.2.document.lexemes = e.2.lexemes) :
    [.comma].intercalate (Document.memberLexemes (Value.memberDocuments (entry :: members))) =
      .text (rawText entry.1) :: .colon :: entry.2.lexemes ++ Value.membersLexemes members := by
  have first := each entry List.mem_cons_self
  induction members generalizing entry with
  | nil =>
    simp only [Value.memberDocuments, Document.memberLexemes, List.intercalate_singleton, first,
      Value.membersLexemes, List.append_nil]
  | cons next members ih =>
    have others := fun e member => each e (List.mem_cons_of_mem _ member)
    have rest := ih next others (others next List.mem_cons_self)
    simp only [Value.memberDocuments, Document.memberLexemes, List.intercalate_cons_cons] at rest ⊢
    rw [first, rest, Value.membersLexemes, List.append_assoc, List.singleton_append]
    rfl

/-- The lexemes of a value are those of its document. -/
theorem Value.Whole.lexemes_document {v : Value} (whole : v.Whole) :
    v.document.lexemes = v.lexemes := by
  induction whole with
  | array items _ each =>
    cases items with
    | nil => rfl
    | cons item items =>
      rw [Value.document, Document.lexemes, intercalate_itemDocuments item items each,
        Value.lexemes]
      rfl
  | object members _ each =>
    cases members with
    | nil => rfl
    | cons entry members =>
      rw [Value.document, Document.lexemes, intercalate_memberDocuments entry members each,
        Value.lexemes]
      rfl
  | _ => rfl

private theorem spaced_itemsChars {items : List Value}
    (each : ∀ item ∈ items, Spaced LexemeSpelled item.chars item.lexemes) :
    Spaced LexemeSpelled (Value.itemsChars items) (Value.itemsLexemes items) := by
  induction items with
  | nil => exact .nil
  | cons item items ih =>
    have first := each item List.mem_cons_self
    have others := ih fun item member => each item (List.mem_cons_of_mem _ member)
    exact .mark (.plain .comma) (first.append others)

private theorem spaced_membersChars {members : List (String × Value)}
    (each : ∀ entry ∈ members, Spaced LexemeSpelled entry.2.chars entry.2.lexemes) :
    Spaced LexemeSpelled (Value.membersChars members) (Value.membersLexemes members) := by
  induction members with
  | nil => exact .nil
  | cons entry members ih =>
    obtain ⟨name, item⟩ := entry
    have first := each (name, item) List.mem_cons_self
    have others := ih fun entry member => each entry (List.mem_cons_of_mem _ member)
    simp only [Value.membersChars, Value.membersLexemes, List.cons_append, List.append_assoc]
    exact .mark (.plain .comma) (.word (.plain (lexemeWritten_quotedText name))
      (.mark (.plain .colon) (first.append others)))

/-- The compact text of a value is written as the lexemes of the value. -/
theorem Value.Whole.spaced {v : Value} (whole : v.Whole) :
    Spaced LexemeSpelled v.chars v.lexemes := by
  induction whole with
  | null => exact .word LexemeSpelled.null .nil
  | bool b =>
    cases b with
    | false => exact .word LexemeSpelled.no .nil
    | true => exact .word LexemeSpelled.yes .nil
  | integer n =>
    rw [← List.append_nil (Value.chars _)]
    exact .word (.numeral (numeralWritten_integerText n)) .nil
  | string s =>
    rw [← List.append_nil (Value.chars _)]
    exact .word (.plain (lexemeWritten_quotedText s)) .nil
  | array items _ each =>
    cases items with
    | nil => exact .mark .beginArray (.mark .endArray .nil)
    | cons item items =>
      have first := each item List.mem_cons_self
      have others := spaced_itemsChars fun item member => each item (List.mem_cons_of_mem _ member)
      simp only [Value.chars, Value.lexemes, List.cons_append, List.append_assoc]
      exact .mark .beginArray (first.append (others.append (.mark .endArray .nil)))
  | object members _ each =>
    cases members with
    | nil => exact .mark (.plain .beginObject) (.mark (.plain .endObject) .nil)
    | cons entry members =>
      obtain ⟨name, item⟩ := entry
      have first := each (name, item) List.mem_cons_self
      have others := spaced_membersChars fun entry member =>
        each entry (List.mem_cons_of_mem _ member)
      simp only [Value.chars, Value.lexemes, List.cons_append, List.append_assoc]
      exact .mark (.plain .beginObject) (.word (.plain (lexemeWritten_quotedText name))
        (.mark (.plain .colon)
          (first.append (others.append (.mark (.plain .endObject) .nil)))))

/-- The compact text of a value writes its document. -/
theorem Value.Whole.writes {v : Value} (whole : v.Whole) : WritesDocument v.text v.document := by
  rw [WritesDocument, Value.text, String.toList_ofList, whole.lexemes_document]
  exact whole.spaced

/-! ### Dictionaries of texts, one entry a line -/

/-- A dictionary of texts as an object. -/
def Value.ofEntries (entries : Dictionary String) : Value :=
  .object (entries.map fun entry => (entry.1, .string entry.2))

theorem Value.whole_ofEntries (entries : Dictionary String) : (Value.ofEntries entries).Whole := by
  refine .object _ fun entry member => ?_
  obtain ⟨written, _, rfl⟩ := List.mem_map.mp member
  exact .string written.2

private theorem spaced_entryLine (entry : String × String) :
    Spaced LexemeSpelled (entryLine entry)
      [.text (rawText entry.1), .colon, .text (rawText entry.2)] := by
  have name := LexemeSpelled.plain (lexemeWritten_quotedText entry.1)
  have value := LexemeSpelled.plain (lexemeWritten_quotedText entry.2)
  rw [← List.append_nil (entryLine entry)]
  simp only [entryLine, List.cons_append, List.append_assoc]
  exact .blank (by decide) (.blank (by decide) (.word name
    (.mark (.plain .colon) (.blank (by decide) (.word value .nil)))))

private theorem spaced_moreLines (entries : Dictionary String) :
    Spaced LexemeSpelled (entries.flatMap fun entry => ',' :: '\n' :: entryLine entry)
      (Value.membersLexemes (entries.map fun entry => (entry.1, .string entry.2))) := by
  induction entries with
  | nil => exact .nil
  | cons entry entries ih =>
    simp only [List.flatMap_cons, List.map_cons, Value.membersLexemes, Value.lexemes]
    exact .mark (.plain .comma) (.blank (by decide) ((spaced_entryLine entry).append ih))

/-- The lines of a dictionary write the object with its entries. -/
theorem writes_entryLines (entries : Dictionary String) :
    WritesDocument (String.ofList (entryLines entries)) (Value.ofEntries entries).document := by
  rw [WritesDocument, String.toList_ofList, (Value.whole_ofEntries entries).lexemes_document]
  cases entries with
  | nil => exact .mark (.plain .beginObject) (.mark (.plain .endObject) .nil)
  | cons entry entries =>
    simp only [entryLines, Value.ofEntries, List.map_cons, Value.lexemes, List.cons_append,
      List.append_assoc]
    exact .mark (.plain .beginObject) (.blank (by decide) ((spaced_entryLine entry).append
      ((spaced_moreLines entries).append (.blank (by decide) (.mark (.plain .endObject) .nil)))))

end TeacherRegistry.Json
