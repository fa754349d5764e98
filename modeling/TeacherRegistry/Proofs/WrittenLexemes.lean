import TeacherRegistry.Json.Lexeme

/-!
# How lexemes are written

Brackets of objects, separators and texts are lexemes that can be read off a text without looking
ahead. With blanks before, between and behind them they are read as themselves; and if a text is
read as lexemes of this kind, it is written as they are.
-/

namespace TeacherRegistry.Json

open TeacherRegistry.Text (Glyph)

/-! ### The grammar -/

/-- The characters that may stand between the parts of a document. -/
def blanks : List Char := [' ', '\n', '\t', '\r']

/-- The letters behind a backslash, with what they stand for. -/
def shortEscapes : List (Char × Char) :=
  [('"', '"'), ('\\', '\\'), ('/', '/'), ('b', '\x08'), ('f', '\x0c'), ('n', '\n'), ('r', '\r'),
    ('t', '\t')]

/-- The number that hexadecimal digits write. -/
def hexNumber? (digits : List Char) : Option Nat :=
  digits.foldlM (fun value c => (Lexer.hexValue? c).map (value * 16 + ·)) 0

/-- How one unit between quotes is written. -/
inductive UnitWritten : List Char → TextUnit → Prop
  | plain {c : Char} (visible : 0x20 ≤ c.toNat) (notQuote : c ≠ '"') (notBackslash : c ≠ '\\') :
    UnitWritten [c] (.char c)
  | short {letter meant : Char} (escape : (letter, meant) ∈ shortEscapes) :
    UnitWritten ['\\', letter] (.char meant)
  | code {digits : List Char} {n : Nat} (four : digits.length = 4)
    (value : hexNumber? digits = some n) : UnitWritten ('\\' :: 'u' :: digits) (.code n)

/-- How the units between quotes are written. -/
inductive UnitsWritten : List Char → RawText → Prop
  | nil : UnitsWritten [] []
  | cons {word written : List Char} {unit : TextUnit} {units : RawText}
    (first : UnitWritten word unit) (rest : UnitsWritten written units) :
    UnitsWritten (word ++ written) (unit :: units)

theorem UnitsWritten.concat {written word : List Char} {units : RawText} {unit : TextUnit}
    (before : UnitsWritten written units) (last : UnitWritten word unit) :
    UnitsWritten (written ++ word) (units ++ [unit]) := by
  induction before with
  | nil =>
    rw [List.nil_append, ← List.append_nil word]
    exact .cons last .nil
  | cons first _ ih =>
    rw [List.append_assoc]
    exact .cons first ih

/-- How the lexemes are written that an object of texts is made of. -/
inductive LexemeWritten : List Char → Lexeme → Prop
  | beginObject : LexemeWritten ['{'] .beginObject
  | endObject : LexemeWritten ['}'] .endObject
  | colon : LexemeWritten [':'] .colon
  | comma : LexemeWritten [','] .comma
  | text {body : List Char} {units : RawText} (written : UnitsWritten body units) :
    LexemeWritten ('"' :: body ++ ['"']) (.text units)

/-- Words in order, with blanks before, between and behind them. -/
inductive Spaced {Word : Type} (Written : List Char → Word → Prop) : List Char → List Word → Prop
  | nil : Spaced Written [] []
  | blank {c : Char} {cs : List Char} {words : List Word} (blank : c ∈ blanks)
    (rest : Spaced Written cs words) : Spaced Written (c :: cs) words
  | word {front cs : List Char} {word : Word} {words : List Word} (first : Written front word)
    (rest : Spaced Written cs words) : Spaced Written (front ++ cs) (word :: words)

theorem Spaced.append {Word : Type} {Written : List Char → Word → Prop} {cs ds : List Char}
    {words later : List Word} (first : Spaced Written cs words) (second : Spaced Written ds later) :
    Spaced Written (cs ++ ds) (words ++ later) := by
  induction first with
  | nil => exact second
  | blank blank _ ih => exact .blank blank ih
  | word first _ ih =>
    rw [List.append_assoc]
    exact .word first ih

/-- A word of one character. -/
theorem Spaced.mark {Word : Type} {Written : List Char → Word → Prop} {c : Char} {word : Word}
    (first : Written [c] word) {cs : List Char} {words : List Word}
    (rest : Spaced Written cs words) : Spaced Written (c :: cs) (word :: words) :=
  .word first rest

theorem hexNumber?_concat (digits : List Char) (c : Char) :
    hexNumber? (digits ++ [c]) =
      (hexNumber? digits).bind fun value => (Lexer.hexValue? c).map (value * 16 + ·) := by
  simp [hexNumber?, List.foldlM_append, bind]

theorem shortEscape?_iff (letter meant : Char) :
    Lexer.shortEscape? letter = some meant ↔ (letter, meant) ∈ shortEscapes := by
  unfold Lexer.shortEscape?
  split <;> simp_all [shortEscapes, eq_comm]

/-! ### Reading what is written -/

/-- The lexemes of a text that goes on with the given characters up to its end. -/
def Lexer.finishAfter? (lexer : Lexer) (cs : List Char) : Option (List Lexeme) := do
  (← (cs.map Glyph.char).foldlM Lexer.read? lexer).finish?

theorem lexemes?_chars (cs : List Char) :
    lexemes? (cs.map .char) = Lexer.start.finishAfter? cs := rfl

theorem finishAfter?_cons (lexer : Lexer) (c : Char) (cs : List Char) :
    lexer.finishAfter? (c :: cs) = (lexer.readChar? c).bind fun next => next.finishAfter? cs := by
  simp only [Lexer.finishAfter?, List.map_cons, List.foldlM_cons, Lexer.read?, bind,
    Option.bind_assoc]

theorem finishAfter?_step {lexer : Lexer} {c : Char} (next : Lexer)
    (read : lexer.readChar? c = some next) (cs : List Char) :
    lexer.finishAfter? (c :: cs) = next.finishAfter? cs := by
  rw [finishAfter?_cons, read, Option.bind_some]

private theorem finishAfter?_code (c : Char) (digits : List Char) {value n : Nat}
    (number : (c :: digits).foldlM (fun value c => (Lexer.hexValue? c).map (value * 16 + ·)) value =
      some n) (units : RawText) (done : List Lexeme) (cs : List Char) :
    Lexer.finishAfter? ⟨.code units (digits.length + 1) value, done⟩ (c :: digits ++ cs) =
      Lexer.finishAfter? ⟨.text (.code n :: units), done⟩ cs := by
  induction digits generalizing c value with
  | nil =>
    obtain ⟨_, first, same⟩ := Option.bind_eq_some_iff.mp number
    cases same
    obtain ⟨digit, hex, rfl⟩ := Option.map_eq_some_iff.mp first
    exact finishAfter?_step _ (by simp [Lexer.readChar?, hex]) cs
  | cons d digits ih =>
    rw [List.foldlM_cons] at number
    obtain ⟨_, first, number⟩ := Option.bind_eq_some_iff.mp number
    obtain ⟨digit, hex, rfl⟩ := Option.map_eq_some_iff.mp first
    have went : Lexer.readChar? ⟨.code units ((d :: digits).length + 1) value, done⟩ c =
        some ⟨.code units (digits.length + 1) (value * 16 + digit), done⟩ := by
      simp [Lexer.readChar?, hex]
    rw [List.cons_append, finishAfter?_step _ went]
    exact ih d number

private theorem finishAfter?_unit {word : List Char} {unit : TextUnit}
    (written : UnitWritten word unit) (units : RawText) (done : List Lexeme) (cs : List Char) :
    Lexer.finishAfter? ⟨.text units, done⟩ (word ++ cs) =
      Lexer.finishAfter? ⟨.text (unit :: units), done⟩ cs := by
  cases written with
  | plain visible notQuote notBackslash =>
    apply finishAfter?_step
    simp only [Lexer.readChar?]
    rw [if_neg notQuote, if_neg notBackslash, if_neg (Nat.not_lt.mpr visible)]
  | @short letter meant escape =>
    have notCode : letter ≠ 'u' := by
      rintro rfl
      revert escape
      simp [shortEscapes]
    have went : Lexer.readChar? ⟨.escape units, done⟩ letter =
        some ⟨.text (.char meant :: units), done⟩ := by
      simp only [Lexer.readChar?]
      rw [if_neg notCode, (shortEscape?_iff letter meant).mpr escape, Option.map_some]
    rw [List.cons_append, finishAfter?_step ⟨.escape units, done⟩ rfl]
    exact finishAfter?_step _ went cs
  | @code digits n four value =>
    match digits, four with
    | c :: digits, four =>
      have three : digits.length + 1 = 4 := four
      rw [List.cons_append, List.cons_append, finishAfter?_step ⟨.escape units, done⟩ rfl,
        finishAfter?_step ⟨.code units 4 0, done⟩ rfl, ← three]
      exact finishAfter?_code c digits value units done cs

private theorem finishAfter?_units {body : List Char} {units : RawText}
    (written : UnitsWritten body units) (before : RawText) (done : List Lexeme) (cs : List Char) :
    Lexer.finishAfter? ⟨.text before, done⟩ (body ++ cs) =
      Lexer.finishAfter? ⟨.text (units.reverse ++ before), done⟩ cs := by
  induction written generalizing before with
  | nil => rfl
  | cons first _ ih =>
    rw [List.append_assoc, finishAfter?_unit first, ih, List.reverse_cons, List.append_assoc,
      List.singleton_append]

/-- A lexeme is read as itself. -/
theorem finishAfter?_lexeme {word : List Char} {lexeme : Lexeme}
    (written : LexemeWritten word lexeme) (done : List Lexeme) (cs : List Char) :
    Lexer.finishAfter? ⟨.idle, done⟩ (word ++ cs) =
      Lexer.finishAfter? ⟨.idle, lexeme :: done⟩ cs := by
  cases written with
  | @text body units written =>
    have close : Lexer.readChar? ⟨.text (units.reverse ++ []), done⟩ '"' =
        some ⟨.idle, .text units :: done⟩ := by
      simp [Lexer.readChar?, Lexer.emit]
    rw [List.append_assoc, List.cons_append, finishAfter?_step ⟨.text [], done⟩ rfl,
      finishAfter?_units written]
    exact finishAfter?_step _ close cs
  | _ => rfl

theorem readChar?_blank (done : List Lexeme) {c : Char} (blank : c ∈ blanks) :
    Lexer.readChar? ⟨.idle, done⟩ c = some ⟨.idle, done⟩ := by
  simp only [blanks, List.mem_cons, List.not_mem_nil, or_false] at blank
  rcases blank with rfl | rfl | rfl | rfl <;> rfl

/-- A text is read as the lexemes that it is written as. -/
theorem lexemes?_of_written {cs : List Char} {lexemes : List Lexeme}
    (spaced : Spaced LexemeWritten cs lexemes) : lexemes? (cs.map .char) = some lexemes := by
  have reads (done : List Lexeme) :
      Lexer.finishAfter? ⟨.idle, done⟩ cs = some (done.reverse ++ lexemes) := by
    induction spaced generalizing done with
    | nil => simp [Lexer.finishAfter?, Lexer.finish?]
    | @blank c cs lexemes blank _ ih =>
      rw [finishAfter?_step _ (readChar?_blank done blank), ih]
    | word first _ ih =>
      rw [finishAfter?_lexeme first, ih, List.reverse_cons, List.append_assoc,
        List.singleton_append]
  rw [lexemes?_chars]
  exact reads []

/-! ### What has been read -/

/-- No unit is a stray byte. -/
def RawText.Clean (units : RawText) : Prop := ∀ b, TextUnit.stray b ∉ units

/-- The lexemes that an object of texts is made of. -/
def Lexeme.Plain : Lexeme → Prop
  | .beginObject | .endObject | .colon | .comma => True
  | .text units => RawText.Clean units
  | _ => False

/-- The modes in which such lexemes are read. -/
def LexMode.Plain : LexMode → Prop
  | .idle => True
  | .word _ lexeme => lexeme.Plain
  | .numeral _ _ => False
  | .text units | .escape units | .code units _ _ => RawText.Clean units

/-- What has been read of the lexeme that is under way. -/
inductive Pending : LexMode → List Char → Prop
  | idle : Pending .idle []
  | text {body : List Char} {units : RawText} (written : UnitsWritten body units.reverse) :
    Pending (.text units) ('"' :: body)
  | escape {body : List Char} {units : RawText} (written : UnitsWritten body units.reverse) :
    Pending (.escape units) ('"' :: body ++ ['\\'])
  | code {body digits : List Char} {units : RawText} {left value : Nat}
    (written : UnitsWritten body units.reverse) (four : digits.length + left = 4)
    (more : 0 < left) (number : hexNumber? digits = some value) :
    Pending (.code units left value) ('"' :: body ++ '\\' :: 'u' :: digits)

/-- If the automaton has come across plain lexemes only, it has read what they are written as. -/
def Lexer.Tracks (lexer : Lexer) (read : List Glyph) : Prop :=
  lexer.mode.Plain → (∀ lexeme ∈ lexer.done, lexeme.Plain) →
    ∃ before pending, read = (before ++ pending).map .char ∧
      Spaced LexemeWritten before lexer.done.reverse ∧ Pending lexer.mode pending

theorem RawText.clean_reverse {units : RawText} :
    RawText.Clean units.reverse ↔ RawText.Clean units := by
  simp [RawText.Clean]

theorem RawText.Clean.of_cons {unit : TextUnit} {units : RawText}
    (clean : RawText.Clean (unit :: units)) : RawText.Clean units :=
  fun b inside => clean b (List.mem_cons_of_mem _ inside)

namespace Lexer

variable {lexer next : Lexer} {read : List Glyph} {c : Char}

/-- A character that completes a lexeme. -/
private theorem Tracks.emit (tracks : lexer.Tracks read) {lexeme : Lexeme}
    (plain : lexeme.Plain → lexer.mode.Plain)
    (complete : ∀ pending, lexeme.Plain → Pending lexer.mode pending →
      LexemeWritten (pending ++ [c]) lexeme) :
    (lexer.emit lexeme).Tracks (read ++ [.char c]) := by
  intro _ all
  have this : lexeme.Plain := all lexeme List.mem_cons_self
  obtain ⟨before, pending, rfl, spaced, under⟩ :=
    tracks (plain this) fun l member => all l (List.mem_cons_of_mem _ member)
  refine ⟨before ++ (pending ++ [c]), [], by simp, ?_, .idle⟩
  rw [Lexer.emit, List.reverse_cons]
  refine spaced.append ?_
  rw [← List.append_nil (pending ++ [c])]
  exact .word (complete pending this under) .nil

/-- A character that belongs to the lexeme under way. -/
private theorem Tracks.goOn (tracks : lexer.Tracks read) {mode : LexMode}
    (plain : mode.Plain → lexer.mode.Plain)
    (longer : ∀ pending, mode.Plain → Pending lexer.mode pending → Pending mode (pending ++ [c])) :
    Lexer.Tracks { lexer with mode } (read ++ [.char c]) := by
  intro this all
  obtain ⟨before, pending, rfl, spaced, under⟩ := tracks (plain this) all
  exact ⟨before, pending ++ [c], by simp, spaced, longer pending this under⟩

private theorem Tracks.blank {done : List Lexeme} (tracks : Lexer.Tracks ⟨.idle, done⟩ read)
    (blank : c ∈ blanks) : Lexer.Tracks ⟨.idle, done⟩ (read ++ [.char c]) := by
  intro _ all
  obtain ⟨before, pending, rfl, spaced, under⟩ := tracks trivial all
  cases under
  exact ⟨before ++ [c], [], by simp, by simpa using spaced.append (.blank blank .nil), .idle⟩

private theorem Tracks.begin {done : List Lexeme} (tracks : Lexer.Tracks ⟨.idle, done⟩ read)
    (begun : begin? ⟨.idle, done⟩ c = some next) : next.Tracks (read ++ [.char c]) := by
  have mark {lexeme : Lexeme} (written : lexeme.Plain → LexemeWritten [c] lexeme) :
      (Lexer.emit ⟨.idle, done⟩ lexeme).Tracks (read ++ [.char c]) := by
    refine tracks.emit (fun _ => trivial) fun pending plain under => ?_
    cases under
    exact written plain
  have skip (mode : LexMode) (plain : ¬ mode.Plain) :
      Lexer.Tracks ⟨mode, done⟩ (read ++ [.char c]) := fun this => absurd this plain
  unfold begin? at begun
  split at begun
  case h_16 =>
    obtain ⟨_, _, rfl⟩ := Option.map_eq_some_iff.mp begun
    exact skip _ id
  all_goals cases begun
  case h_5 | h_6 => exact mark False.elim
  case h_7 => exact mark fun _ => .beginObject
  case h_8 => exact mark fun _ => .endObject
  case h_9 => exact mark fun _ => .colon
  case h_10 => exact mark fun _ => .comma
  case h_11 =>
    refine tracks.goOn (fun _ => trivial) fun pending _ under => ?_
    cases under
    exact .text .nil
  case h_12 | h_13 | h_14 | h_15 => exact skip _ id
  all_goals exact tracks.blank (by decide)

/-- What one character does between quotes. -/
private theorem Tracks.textChar {done : List Lexeme} {units : RawText}
    (tracks : Lexer.Tracks ⟨.text units, done⟩ read)
    (went : readChar? ⟨.text units, done⟩ c = some next) : next.Tracks (read ++ [.char c]) := by
  simp only [readChar?] at went
  split at went
  next quote =>
    cases went
    refine tracks.emit RawText.clean_reverse.mp fun pending _ under => ?_
    cases under with
    | text written =>
      rw [quote]
      exact .text written
  · split at went
    next backslash =>
      cases went
      refine tracks.goOn id fun pending _ under => ?_
      cases under with
      | text written =>
        rw [backslash]
        exact .escape written
    · split at went
      · cases went
      next notQuote notBackslash visible =>
        cases went
        refine tracks.goOn RawText.Clean.of_cons fun pending _ under => ?_
        cases under with
        | text written =>
          apply Pending.text
          rw [List.reverse_cons]
          exact written.concat (.plain (Nat.not_lt.mp visible) notQuote notBackslash)

private theorem Tracks.escapeChar {done : List Lexeme} {units : RawText}
    (tracks : Lexer.Tracks ⟨.escape units, done⟩ read)
    (went : readChar? ⟨.escape units, done⟩ c = some next) : next.Tracks (read ++ [.char c]) := by
  simp only [readChar?] at went
  split at went
  next letter =>
    cases went
    refine tracks.goOn id fun pending _ under => ?_
    cases under with
    | escape written =>
      rw [letter, List.append_assoc]
      have none : hexNumber? [] = some 0 := rfl
      exact .code written rfl (by decide) none
  · obtain ⟨meant, short, rfl⟩ := Option.map_eq_some_iff.mp went
    refine tracks.goOn RawText.Clean.of_cons fun pending _ under => ?_
    cases under with
    | escape written =>
      rw [List.append_assoc, List.cons_append]
      apply Pending.text
      rw [List.reverse_cons]
      exact written.concat (.short ((shortEscape?_iff c meant).mp short))

private theorem Tracks.codeChar {done : List Lexeme} {units : RawText} {left value : Nat}
    (tracks : Lexer.Tracks ⟨.code units left value, done⟩ read)
    (went : readChar? ⟨.code units left value, done⟩ c = some next) :
    next.Tracks (read ++ [.char c]) := by
  obtain ⟨digit, hex, same⟩ := Option.map_eq_some_iff.mp went
  have longer (digits : List Char) : (digits ++ [c]).length = digits.length + 1 :=
    List.length_append
  have number {digits : List Char} (before : hexNumber? digits = some value) :
      hexNumber? (digits ++ [c]) = some (value * 16 + digit) := by
    rw [hexNumber?_concat, before, Option.bind_some, hex, Option.map_some]
  simp only at same
  split at same <;> subst same
  next last =>
    refine tracks.goOn RawText.Clean.of_cons fun pending _ under => ?_
    cases under with
    | @code body digits _ _ _ written four more before =>
      rw [List.append_assoc, List.cons_append]
      apply Pending.text
      rw [List.reverse_cons]
      exact written.concat (.code ((longer digits).trans (by omega)) (number before))
  next others =>
    refine tracks.goOn id fun pending _ under => ?_
    cases under with
    | @code body digits _ _ _ written four more before =>
      have still : (digits ++ [c]).length + (left - 1) = 4 := by
        rw [longer]
        omega
      rw [List.append_assoc, List.cons_append, List.cons_append]
      exact .code written still (by omega) (number before)

private theorem Tracks.wordChar {done : List Lexeme} {rest : List Char} {lexeme : Lexeme}
    (tracks : Lexer.Tracks ⟨.word rest lexeme, done⟩ read)
    (went : readChar? ⟨.word rest lexeme, done⟩ c = some next) :
    next.Tracks (read ++ [.char c]) := by
  -- the words are no plain lexemes, and nothing is said about those
  cases rest with
  | nil => cases went
  | cons expected rest =>
    simp only [readChar?] at went
    split at went
    · cases went
    · split at went <;> cases went
      · exact tracks.emit id fun pending _ under => by cases under
      · exact tracks.goOn id fun pending _ under => by cases under

private theorem Tracks.numeralChar {done : List Lexeme} {stage : NumeralStage} {n : Numeral}
    (went : readChar? ⟨.numeral stage n, done⟩ c = some next) :
    next.Tracks (read ++ [.char c]) := by
  simp only [readChar?] at went
  split at went
  · cases went
    exact False.elim
  · split at went
    -- the character ends the number, which is no plain lexeme, and begins something else
    · have ended : Lexer.Tracks ⟨.idle, .numeral n :: done⟩ read := fun _ all =>
        (all _ List.mem_cons_self).elim
      exact ended.begin went
    · cases went

theorem Tracks.readChar (tracks : lexer.Tracks read) (went : lexer.readChar? c = some next) :
    next.Tracks (read ++ [.char c]) := by
  obtain ⟨mode, done⟩ := lexer
  cases mode with
  | idle => exact tracks.begin went
  | word rest lexeme => exact tracks.wordChar went
  | numeral stage n => exact Tracks.numeralChar went
  | text units => exact tracks.textChar went
  | escape units => exact tracks.escapeChar went
  | code units left value => exact tracks.codeChar went

theorem Tracks.step {glyph : Glyph} (tracks : lexer.Tracks read)
    (went : lexer.read? glyph = some next) : next.Tracks (read ++ [glyph]) := by
  cases glyph with
  | char c => exact tracks.readChar went
  | stray b =>
    -- a stray byte can only stand between quotes, and there it is not plain
    simp only [read?] at went
    split at went <;> cases went
    exact fun clean => absurd List.mem_cons_self (clean b)

theorem Tracks.run {input : List Glyph} (tracks : lexer.Tracks read)
    (went : input.foldlM read? lexer = some next) : next.Tracks (read ++ input) := by
  induction input generalizing lexer read with
  | nil =>
    cases went
    rwa [List.append_nil]
  | cons glyph input ih =>
    rw [List.foldlM_cons] at went
    obtain ⟨after, first, went⟩ := Option.bind_eq_some_iff.mp went
    rw [← List.singleton_append, ← List.append_assoc]
    exact ih (tracks.step first) went

end Lexer

/-- If a text is read as plain lexemes, it is written as they are. -/
theorem written_of_lexemes {input : List Glyph} {lexemes : List Lexeme}
    (read : lexemes? input = some lexemes) (plain : ∀ lexeme ∈ lexemes, lexeme.Plain) :
    ∃ cs, input = cs.map .char ∧ Spaced LexemeWritten cs lexemes := by
  obtain ⟨⟨mode, done⟩, went, finished⟩ := Option.bind_eq_some_iff.mp read
  have start : Lexer.start.Tracks [] := fun _ _ => ⟨[], [], rfl, .nil, .idle⟩
  have tracks := start.run went
  rw [List.nil_append] at tracks
  cases mode with
  | idle =>
    cases finished
    obtain ⟨before, pending, rfl, spaced, under⟩ :=
      tracks trivial fun l member => plain l (List.mem_reverse.mpr member)
    cases under
    exact ⟨before, by rw [List.append_nil], spaced⟩
  | numeral stage n =>
    simp only [Lexer.finish?] at finished
    split at finished <;> cases finished
    exact (plain (.numeral n) (by simp [Lexer.emit])).elim
  | _ => cases finished

end TeacherRegistry.Json
