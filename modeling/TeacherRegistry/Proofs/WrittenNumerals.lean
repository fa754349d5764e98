import TeacherRegistry.Proofs.WrittenLexemes

/-!
# How numbers are written

A number is a whole part, after a minus sign if it is negative, with a fraction and an exponent if it
has them. It is read as its numeral wherever something follows that ends it: a blank, a comma, a
closing bracket or the end of the text.
-/

namespace TeacherRegistry.Json

/-! ### The grammar -/

/-- At least one digit, and nothing but digits. -/
def Digits (cs : List Char) : Prop :=
  cs ≠ [] ∧ ∀ c ∈ cs, c.isDigit = true

/-- A whole part begins with the digit zero only if it is zero. -/
inductive WholeWritten : List Char → Prop
  | digits {digit : Char} {rest : List Char} (all : ∀ c ∈ digit :: rest, c.isDigit = true)
    (lead : digit = '0' → rest = []) : WholeWritten (digit :: rest)

/-- How a fraction is written, if there is one. -/
inductive FractionWritten : List Char → Option (List Char) → Prop
  | none : FractionWritten [] none
  | some {digits : List Char} (all : Digits digits) : FractionWritten ('.' :: digits) (some digits)

/-- How the sign of an exponent is written; the positive one may be left out. -/
inductive SignWritten : List Char → Bool → Prop
  | none : SignWritten [] false
  | plus : SignWritten ['+'] false
  | minus : SignWritten ['-'] true

/-- How an exponent is written, if there is one. -/
inductive ExponentWritten : List Char → Option (Bool × List Char) → Prop
  | none : ExponentWritten [] none
  | some {letter : Char} {sign digits : List Char} {negative : Bool} (isLetter : letter ∈ ['e', 'E'])
    (signed : SignWritten sign negative) (all : Digits digits) :
    ExponentWritten (letter :: (sign ++ digits)) (some (negative, digits))

/-- How a number is written. -/
inductive NumeralWritten : List Char → Numeral → Prop
  | parts {negative : Bool} {whole fraction exponent : List Char} {places : Option (List Char)}
    {power : Option (Bool × List Char)} (first : WholeWritten whole)
    (second : FractionWritten fraction places) (third : ExponentWritten exponent power) :
    NumeralWritten ((if negative then ['-'] else []) ++ (whole ++ (fraction ++ exponent)))
      ⟨negative, whole, places, power⟩

/-- What follows ends a number. -/
def EndsNumber (cs : List Char) : Prop :=
  ∀ c ∈ cs.head?, c ∈ [',', ']', '}'] ++ blanks

/-! ### Reading what is written -/

/-- What ends a number belongs to no number. -/
private theorem extend?_of_ends {c : Char} (ends : c ∈ [',', ']', '}'] ++ blanks)
    (stage : NumeralStage) (n : Numeral) : stage.extend? n c = none := by
  simp only [blanks, List.cons_append, List.nil_append, List.mem_cons, List.not_mem_nil,
    or_false] at ends
  rcases ends with rfl | rfl | rfl | rfl | rfl | rfl | rfl <;> cases stage <;> rfl

private theorem finishAfter?_ended {stage : NumeralStage} (complete : stage.complete = true)
    (n : Numeral) (done : List Lexeme) {cs : List Char} (ends : EndsNumber cs) :
    Lexer.finishAfter? ⟨.numeral stage n, done⟩ cs =
      Lexer.finishAfter? ⟨.idle, .numeral n :: done⟩ cs := by
  cases cs with
  | nil => simp [Lexer.finishAfter?, Lexer.finish?, Lexer.emit, complete]
  | cons c rest =>
    have other := extend?_of_ends (ends c rfl) stage n
    simp only [finishAfter?_cons, Lexer.readChar?, other, complete, if_true, Lexer.emit]

/-- Digits in a stage that takes them one by one. -/
private theorem finishAfter?_digits (stage : NumeralStage) (numeral : List Char → Numeral)
    (takes : ∀ before c, c.isDigit = true →
      stage.extend? (numeral before) c = some (stage, numeral (before ++ [c])))
    (before : List Char) (done : List Lexeme) {digits : List Char}
    (all : ∀ c ∈ digits, c.isDigit = true) (cs : List Char) :
    Lexer.finishAfter? ⟨.numeral stage (numeral before), done⟩ (digits ++ cs) =
      Lexer.finishAfter? ⟨.numeral stage (numeral (before ++ digits)), done⟩ cs := by
  induction digits generalizing before with
  | nil => rw [List.nil_append, List.append_nil]
  | cons c digits ih =>
    have read : Lexer.readChar? ⟨.numeral stage (numeral before), done⟩ c =
        some ⟨.numeral stage (numeral (before ++ [c])), done⟩ := by
      simp only [Lexer.readChar?, takes before c (all c List.mem_cons_self)]
    rw [List.cons_append, finishAfter?_step _ read,
      ih _ fun c member => all c (List.mem_cons_of_mem _ member), List.append_assoc,
      List.singleton_append]

/-- The stages after which an exponent may begin. -/
private def BeforeExponent (stage : NumeralStage) : Prop :=
  stage = .zero ∨ stage = .whole ∨ stage = .fraction

private theorem BeforeExponent.complete {stage : NumeralStage} (before : BeforeExponent stage) :
    stage.complete = true := by
  rcases before with rfl | rfl | rfl <;> rfl

private theorem extend?_letter {stage : NumeralStage} (before : BeforeExponent stage) (n : Numeral)
    {letter : Char} (isLetter : letter ∈ ['e', 'E']) :
    stage.extend? n letter = some (.exponent, { n with exponent := some (false, []) }) := by
  simp only [List.mem_cons, List.not_mem_nil, or_false] at isLetter
  rcases before with rfl | rfl | rfl <;> rcases isLetter with rfl | rfl <;> rfl

private theorem extend?_exponentDigit (n : Numeral) {c : Char} (digit : c.isDigit = true) :
    NumeralStage.exponent.extend? n c = some (.exponentDigits, n.pushExponent c) := by
  have notMinus : c ≠ '-' := by rintro rfl; exact absurd digit (by decide)
  have notPlus : c ≠ '+' := by rintro rfl; exact absurd digit (by decide)
  simp only [NumeralStage.extend?, if_neg notMinus, if_neg notPlus, digit, if_true]

/-- The sign of an exponent and its first digit. -/
private theorem finishAfter?_exponentLead {sign : List Char} {negative : Bool}
    (signed : SignWritten sign negative) (n : Numeral) (done : List Lexeme) {c : Char}
    (digit : c.isDigit = true) (cs : List Char) :
    Lexer.finishAfter? ⟨.numeral .exponent { n with exponent := some (false, []) }, done⟩
        (sign ++ c :: cs) =
      Lexer.finishAfter?
        ⟨.numeral .exponentDigits { n with exponent := some (negative, [c]) }, done⟩ cs := by
  have afterSign (m : Numeral) : Lexer.readChar? ⟨.numeral .exponentSign m, done⟩ c =
      some ⟨.numeral .exponentDigits (m.pushExponent c), done⟩ := by
    simp only [Lexer.readChar?, NumeralStage.extend?, digit, if_true]
  cases signed with
  | none =>
    refine finishAfter?_step _ ?_ cs
    simp only [Lexer.readChar?, extend?_exponentDigit _ digit]
    rfl
  | plus => exact (finishAfter?_step _ rfl _).trans (finishAfter?_step _ (afterSign _) cs)
  | minus => exact (finishAfter?_step _ rfl _).trans (finishAfter?_step _ (afterSign _) cs)

private theorem finishAfter?_exponent {exponent : List Char} {power : Option (Bool × List Char)}
    (written : ExponentWritten exponent power) {stage : NumeralStage}
    (before : BeforeExponent stage) {n : Numeral} (fresh : n.exponent = none) (done : List Lexeme)
    {cs : List Char} (ends : EndsNumber cs) :
    Lexer.finishAfter? ⟨.numeral stage n, done⟩ (exponent ++ cs) =
      Lexer.finishAfter? ⟨.idle, .numeral { n with exponent := power } :: done⟩ cs := by
  cases written with
  | none =>
    rw [← fresh, List.nil_append]
    exact finishAfter?_ended before.complete n done ends
  | @some letter sign digits negative isLetter signed all =>
    obtain ⟨filled, all⟩ := all
    obtain ⟨c, digits, rfl⟩ := List.exists_cons_of_ne_nil filled
    have begun : Lexer.readChar? ⟨.numeral stage n, done⟩ letter =
        some ⟨.numeral .exponent { n with exponent := some (false, []) }, done⟩ := by
      simp only [Lexer.readChar?, extend?_letter before n isLetter]
    have rest := finishAfter?_digits .exponentDigits
      (fun digits => { n with exponent := some (negative, digits) })
      (fun _ _ digit => by simp only [NumeralStage.extend?, digit, if_true]; rfl)
      [c] done (fun c member => all c (List.mem_cons_of_mem _ member)) cs
    -- the letter, the sign with the first digit, and the other digits
    rw [List.cons_append, finishAfter?_step _ begun, List.append_assoc, List.cons_append,
      finishAfter?_exponentLead signed n done (all c List.mem_cons_self), rest]
    exact finishAfter?_ended rfl _ done ends

/-- The fraction and the exponent of a number. -/
private theorem finishAfter?_fraction {fraction exponent : List Char} {places : Option (List Char)}
    {power : Option (Bool × List Char)} (written : FractionWritten fraction places)
    (later : ExponentWritten exponent power) {stage : NumeralStage}
    (whole : stage = .zero ∨ stage = .whole) (negative : Bool) (digits : List Char)
    (done : List Lexeme) {cs : List Char} (ends : EndsNumber cs) :
    Lexer.finishAfter? ⟨.numeral stage ⟨negative, digits, none, none⟩, done⟩
        (fraction ++ (exponent ++ cs)) =
      Lexer.finishAfter? ⟨.idle, .numeral ⟨negative, digits, places, power⟩ :: done⟩ cs := by
  cases written with
  | none =>
    have before : BeforeExponent stage := whole.imp_right Or.inl
    exact finishAfter?_exponent later before rfl done ends
  | @some places all =>
    obtain ⟨filled, all⟩ := all
    obtain ⟨c, places, rfl⟩ := List.exists_cons_of_ne_nil filled
    have point : Lexer.readChar? ⟨.numeral stage ⟨negative, digits, none, none⟩, done⟩ '.' =
        some ⟨.numeral .point ⟨negative, digits, some [], none⟩, done⟩ := by
      rcases whole with rfl | rfl <;> rfl
    have first : Lexer.readChar? ⟨.numeral .point ⟨negative, digits, some [], none⟩, done⟩ c =
        some ⟨.numeral .fraction ⟨negative, digits, some [c], none⟩, done⟩ := by
      simp [Lexer.readChar?, NumeralStage.extend?, all c List.mem_cons_self]
    have rest := finishAfter?_digits .fraction
      (fun places => ⟨negative, digits, some places, none⟩)
      (fun _ _ digit => by simp [NumeralStage.extend?, digit])
      [c] done (fun c member => all c (List.mem_cons_of_mem _ member)) (exponent ++ cs)
    rw [List.cons_append, List.cons_append, finishAfter?_step _ point, finishAfter?_step _ first,
      rest]
    exact finishAfter?_exponent later (Or.inr (Or.inr rfl)) rfl done ends

/-- How far a number is after its first digit. -/
private def leadStage (digit : Char) : NumeralStage :=
  if digit = '0' then .zero else .whole

private theorem extend?_lead (negative : Bool) {c : Char} (digit : c.isDigit = true) :
    NumeralStage.sign.extend? ⟨negative, [], none, none⟩ c =
      some (leadStage c, ⟨negative, [c], none, none⟩) := by
  by_cases zero : c = '0' <;> simp [NumeralStage.extend?, leadStage, zero, digit]

private theorem begin?_digit (lexer : Lexer) {c : Char} (digit : c.isDigit = true) :
    lexer.begin? c = some { lexer with mode := .numeral (leadStage c) ⟨false, [c], none, none⟩ } := by
  unfold Lexer.begin?
  split
  case h_16 => rw [extend?_lead false digit, Option.map_some]
  all_goals exact absurd digit (by decide)

/-- The digits of a whole part after the first. -/
private theorem finishAfter?_whole {digit : Char} {rest : List Char}
    (all : ∀ c ∈ digit :: rest, c.isDigit = true) (lead : digit = '0' → rest = [])
    (negative : Bool) (done : List Lexeme) (cs : List Char) :
    Lexer.finishAfter? ⟨.numeral (leadStage digit) ⟨negative, [digit], none, none⟩, done⟩
        (rest ++ cs) =
      Lexer.finishAfter? ⟨.numeral (leadStage digit) ⟨negative, digit :: rest, none, none⟩, done⟩
        cs := by
  by_cases zero : digit = '0'
  · rw [lead zero, List.nil_append]
  · rw [leadStage, if_neg zero]
    exact finishAfter?_digits .whole
      (fun digits => ⟨negative, digits, none, none⟩)
      (fun _ _ digit => by simp [NumeralStage.extend?, digit])
      [digit] done (fun c member => all c (List.mem_cons_of_mem _ member)) cs

/-- A number is read as itself before whatever ends it. -/
theorem finishAfter?_numeral {word : List Char} {n : Numeral} (written : NumeralWritten word n)
    (done : List Lexeme) {cs : List Char} (ends : EndsNumber cs) :
    Lexer.finishAfter? ⟨.idle, done⟩ (word ++ cs) =
      Lexer.finishAfter? ⟨.idle, .numeral n :: done⟩ cs := by
  cases written with
  | @parts negative whole fraction exponent places power first second third =>
    cases first with
    | @digits digit rest all lead =>
      have isDigit := all digit List.mem_cons_self
      -- with or without a sign, the first digit begins the whole part
      have begun : Lexer.finishAfter? ⟨.idle, done⟩ ((if negative then ['-'] else []) ++
            (digit :: rest ++ (fraction ++ exponent)) ++ cs) =
          Lexer.finishAfter? ⟨.numeral (leadStage digit) ⟨negative, [digit], none, none⟩, done⟩
            (rest ++ (fraction ++ (exponent ++ cs))) := by
        cases negative with
        | false =>
          have unsigned : Lexer.readChar? ⟨.idle, done⟩ digit =
              some ⟨.numeral (leadStage digit) ⟨false, [digit], none, none⟩, done⟩ :=
            begin?_digit ⟨.idle, done⟩ isDigit
          simp only [Bool.false_eq_true, if_false, List.nil_append, List.cons_append,
            List.append_assoc]
          exact finishAfter?_step _ unsigned _
        | true =>
          have signed : Lexer.readChar? ⟨.numeral .sign ⟨true, [], none, none⟩, done⟩ digit =
              some ⟨.numeral (leadStage digit) ⟨true, [digit], none, none⟩, done⟩ := by
            simp only [Lexer.readChar?, extend?_lead true isDigit]
          simp only [if_true, List.cons_append, List.nil_append, List.append_assoc]
          rw [finishAfter?_step ⟨.numeral .sign ⟨true, [], none, none⟩, done⟩ rfl]
          exact finishAfter?_step _ signed _
      have stage : leadStage digit = .zero ∨ leadStage digit = .whole := by
        unfold leadStage
        split <;> simp
      rw [begun, finishAfter?_whole all lead]
      exact finishAfter?_fraction second third stage negative _ done ends

end TeacherRegistry.Json
