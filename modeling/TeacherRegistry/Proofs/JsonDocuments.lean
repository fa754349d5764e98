import TeacherRegistry.Json.Document

/-!
# Documents and their lexemes

A list of lexemes is read as a document exactly when it is the list of the document's own lexemes:
the reader keeps all that it has read, and it reads whatever a document is written as.
-/

namespace TeacherRegistry.Json

mutual

/-- The lexemes that a document is written as. -/
def Document.lexemes : Document → List Lexeme
  | .null => [.null]
  | .bool b => [.bool b]
  | .numeral n => [.numeral n]
  | .text units => [.text units]
  | .array items => .beginArray :: [.comma].intercalate (Document.itemLexemes items) ++ [.endArray]
  | .object members =>
    .beginObject :: [.comma].intercalate (Document.memberLexemes members) ++ [.endObject]

/-- The lexemes of each item of an array. -/
def Document.itemLexemes : List Document → List (List Lexeme)
  | [] => []
  | item :: rest => item.lexemes :: Document.itemLexemes rest

/-- The lexemes of each member of an object. -/
def Document.memberLexemes : List (RawText × Document) → List (List Lexeme)
  | [] => []
  | (name, item) :: rest => (.text name :: .colon :: item.lexemes) :: Document.memberLexemes rest

end

namespace Document

theorem itemLexemes_append (items later : List Document) :
    itemLexemes (items ++ later) = itemLexemes items ++ itemLexemes later := by
  induction items with
  | nil => rfl
  | cons item rest ih => rw [List.cons_append, itemLexemes, itemLexemes, ih, List.cons_append]

theorem memberLexemes_append (members later : List (RawText × Document)) :
    memberLexemes (members ++ later) = memberLexemes members ++ memberLexemes later := by
  induction members with
  | nil => rfl
  | cons member rest ih =>
    rw [List.cons_append, memberLexemes, memberLexemes, ih, List.cons_append]

end Document

/-! ### What a reader has read -/

/-- Lists of lexemes with a comma behind each. -/
def withCommas (parts : List (List Lexeme)) : List Lexeme :=
  parts.flatMap (· ++ [.comma])

/-- Commas between are commas behind all parts but the last. -/
theorem intercalate_concat (parts : List (List Lexeme)) (last : List Lexeme) :
    [Lexeme.comma].intercalate (parts ++ [last]) = withCommas parts ++ last := by
  induction parts with
  | nil => simp [withCommas, List.intercalate]
  | cons part rest ih =>
    cases rest with
    | nil => simp [withCommas, List.intercalate]
    | cons next others =>
      simp only [List.cons_append, List.intercalate_cons_cons] at ih ⊢
      rw [ih]
      simp [withCommas]

/-- What has been read of a container that is still open. -/
def OpenContainer.lexemes : OpenContainer → List Lexeme
  | .array items => .beginArray :: withCommas (Document.itemLexemes items.reverse)
  | .object members name =>
    .beginObject :: withCommas (Document.memberLexemes members.reverse) ++ [.text name, .colon]

/-- What has been read of the containers that are still open, outermost first. -/
def openLexemes (stack : List OpenContainer) : List Lexeme :=
  stack.reverse.flatMap OpenContainer.lexemes

theorem openLexemes_cons (container : OpenContainer) (stack : List OpenContainer) :
    openLexemes (container :: stack) = openLexemes stack ++ container.lexemes := by
  simp [openLexemes]

/-- All that a reader has read. -/
def Reader.lexemes : Reader → List Lexeme
  | .awaitValue stack => openLexemes stack
  | .awaitItem stack => openLexemes stack ++ [.beginArray]
  | .awaitMember stack => openLexemes stack ++ [.beginObject]
  | .awaitName members stack =>
    openLexemes stack ++ .beginObject :: withCommas (Document.memberLexemes members.reverse)
  | .awaitColon members name stack =>
    openLexemes stack ++ .beginObject :: withCommas (Document.memberLexemes members.reverse) ++
      [.text name]
  | .complete value stack => openLexemes stack ++ value.lexemes

theorem Reader.lexemes_of_beginValue {stack : List OpenContainer} {lexeme : Lexeme} {next : Reader}
    (read : beginValue? stack lexeme = some next) :
    next.lexemes = openLexemes stack ++ [lexeme] := by
  unfold beginValue? at read
  split at read <;> cases read <;> rfl

theorem Reader.lexemes_of_continue {value : Document} {stack : List OpenContainer}
    {lexeme : Lexeme} {next : Reader} (read : continue? value stack lexeme = some next) :
    next.lexemes = openLexemes stack ++ value.lexemes ++ [lexeme] := by
  unfold continue? at read
  split at read
  · cases read
    simp [Reader.lexemes, openLexemes_cons, OpenContainer.lexemes, Document.itemLexemes_append,
      Document.itemLexemes, withCommas]
  · cases read
    simp [Reader.lexemes, openLexemes_cons, OpenContainer.lexemes, Document.itemLexemes_append,
      Document.itemLexemes, Document.lexemes, intercalate_concat]
  · cases read
    simp [Reader.lexemes, openLexemes_cons, OpenContainer.lexemes, Document.memberLexemes_append,
      Document.memberLexemes, withCommas]
  · cases read
    simp [Reader.lexemes, openLexemes_cons, OpenContainer.lexemes, Document.memberLexemes_append,
      Document.memberLexemes, Document.lexemes, intercalate_concat]
  · cases read

/-- A reader forgets nothing. -/
theorem Reader.lexemes_of_read {reader next : Reader} {lexeme : Lexeme}
    (read : reader.read? lexeme = some next) : next.lexemes = reader.lexemes ++ [lexeme] := by
  unfold Reader.read? at read
  split at read
  · exact lexemes_of_beginValue read
  · cases read
    simp [Reader.lexemes, Document.lexemes, Document.itemLexemes, List.intercalate]
  · rw [lexemes_of_beginValue read, openLexemes_cons]
    rfl
  · cases read
    simp [Reader.lexemes, Document.lexemes, Document.memberLexemes, List.intercalate]
  · cases read
    simp [Reader.lexemes, withCommas, Document.memberLexemes]
  · cases read
    simp [Reader.lexemes]
  · cases read
    simp [Reader.lexemes, openLexemes_cons, OpenContainer.lexemes]
  · exact lexemes_of_continue read
  · cases read

/-- What becomes of a reader when it reads lexemes. -/
def Reader.readAll? (reader : Reader) (lexemes : List Lexeme) : Option Reader :=
  lexemes.foldlM Reader.read? reader

theorem Reader.readAll?_cons (reader : Reader) (lexeme : Lexeme) (rest : List Lexeme) :
    reader.readAll? (lexeme :: rest) = (reader.read? lexeme).bind fun next => next.readAll? rest :=
  List.foldlM_cons

theorem Reader.lexemes_of_readAll {reader last : Reader} {lexemes : List Lexeme}
    (read : reader.readAll? lexemes = some last) : last.lexemes = reader.lexemes ++ lexemes := by
  induction lexemes generalizing reader with
  | nil =>
    cases read
    rw [List.append_nil]
  | cons lexeme rest ih =>
    rw [readAll?_cons] at read
    obtain ⟨next, first, read⟩ := Option.bind_eq_some_iff.mp read
    rw [ih read, lexemes_of_read first, List.append_assoc, List.singleton_append]

/-! ### Reading what a document is written as -/

/-- Where a value must begin, the lexemes of a document are read as the document. -/
private def ReadsTo (d : Document) : Prop :=
  ∀ (stack : List OpenContainer) (rest : List Lexeme),
    Reader.readAll? (.awaitValue stack) (d.lexemes ++ rest) =
      Reader.readAll? (.complete d stack) rest

private theorem readAll?_step {reader : Reader} {lexeme : Lexeme} (next : Reader)
    (read : reader.read? lexeme = some next) (rest : List Lexeme) :
    reader.readAll? (lexeme :: rest) = next.readAll? rest := by
  rw [Reader.readAll?_cons, read, Option.bind_some]

/-- Where an array may end, a first item is read as such. -/
private theorem readAll?_awaitItem (item : Document) (items : List Document)
    (stack : List OpenContainer) (rest : List Lexeme) :
    Reader.readAll? (.awaitItem stack)
        ([.comma].intercalate (Document.itemLexemes (item :: items)) ++ rest) =
      Reader.readAll? (.awaitValue (.array [] :: stack))
        ([.comma].intercalate (Document.itemLexemes (item :: items)) ++ rest) := by
  -- no document begins with the end of an array
  cases item <;> cases items <;> rfl

/-- Where an object may end, a first member is read as such. -/
private theorem readAll?_awaitMember (member : RawText × Document)
    (members : List (RawText × Document)) (stack : List OpenContainer) (rest : List Lexeme) :
    Reader.readAll? (.awaitMember stack)
        ([.comma].intercalate (Document.memberLexemes (member :: members)) ++ rest) =
      Reader.readAll? (.awaitName [] stack)
        ([.comma].intercalate (Document.memberLexemes (member :: members)) ++ rest) := by
  cases members <;> rfl

private theorem readAll?_items (item : Document) (items before : List Document)
    (each : ∀ d ∈ item :: items, ReadsTo d) (stack : List OpenContainer) (rest : List Lexeme) :
    Reader.readAll? (.awaitValue (.array before :: stack))
        ([.comma].intercalate (Document.itemLexemes (item :: items)) ++ .endArray :: rest) =
      Reader.readAll? (.complete (.array (before.reverse ++ item :: items)) stack) rest := by
  have first := each item List.mem_cons_self
  induction items generalizing item before with
  | nil =>
    rw [Document.itemLexemes, Document.itemLexemes, List.intercalate_singleton, first,
      readAll?_step _ rfl, List.reverse_cons]
  | cons next items ih =>
    have others := fun d member => each d (List.mem_cons_of_mem _ member)
    rw [Document.itemLexemes, Document.itemLexemes, List.intercalate_cons_cons, List.append_assoc,
      List.append_assoc, first, List.singleton_append, readAll?_step _ rfl,
      ← Document.itemLexemes, ih next (item :: before) others (others next List.mem_cons_self),
      List.reverse_cons, List.append_assoc, List.singleton_append]

private theorem readAll?_members (member : RawText × Document)
    (members before : List (RawText × Document))
    (each : ∀ entry ∈ member :: members, ReadsTo entry.2) (stack : List OpenContainer)
    (rest : List Lexeme) :
    Reader.readAll? (.awaitName before stack)
        ([.comma].intercalate (Document.memberLexemes (member :: members)) ++ .endObject :: rest) =
      Reader.readAll? (.complete (.object (before.reverse ++ member :: members)) stack) rest := by
  have first := each member List.mem_cons_self
  induction members generalizing member before with
  | nil =>
    rw [Document.memberLexemes, Document.memberLexemes, List.intercalate_singleton,
      List.cons_append, List.cons_append, readAll?_step _ rfl, readAll?_step _ rfl, first,
      readAll?_step _ rfl, List.reverse_cons]
  | cons next members ih =>
    have others := fun entry member => each entry (List.mem_cons_of_mem _ member)
    rw [Document.memberLexemes, Document.memberLexemes, List.intercalate_cons_cons,
      List.append_assoc, List.append_assoc, List.cons_append, List.cons_append,
      readAll?_step _ rfl, readAll?_step _ rfl, first, List.singleton_append,
      readAll?_step _ rfl, ← Document.memberLexemes,
      ih next (member :: before) others (others next List.mem_cons_self),
      List.reverse_cons, List.append_assoc, List.singleton_append]

private theorem readsTo (d : Document) : ReadsTo d := by
  intro stack rest
  match d with
  | .null | .bool _ | .numeral _ | .text _ | .array [] | .object [] => rfl
  | .array (item :: items) =>
    have each : ∀ d ∈ item :: items, ReadsTo d := fun d inside => readsTo d
    rw [Document.lexemes, List.cons_append, List.cons_append, List.append_assoc,
      readAll?_step (.awaitItem stack) rfl, readAll?_awaitItem]
    exact readAll?_items item items [] each stack rest
  | .object (member :: members) =>
    have each : ∀ entry ∈ member :: members, ReadsTo entry.2 := fun (name, d) inside => readsTo d
    rw [Document.lexemes, List.cons_append, List.cons_append, List.append_assoc,
      readAll?_step (.awaitMember stack) rfl, readAll?_awaitMember]
    exact readAll?_members member members [] each stack rest
termination_by sizeOf d
decreasing_by
  all_goals
    have smaller := List.sizeOf_lt_of_mem inside
    simp at smaller ⊢
    omega

namespace Document

theorem ofLexemes?_eq (lexemes : List Lexeme) :
    ofLexemes? lexemes = (Reader.readAll? (.awaitValue []) lexemes).bind Reader.finish? := rfl

/-- A document is what its lexemes are read as, and no other lexemes are read as it. -/
theorem ofLexemes?_eq_some_iff (lexemes : List Lexeme) (d : Document) :
    ofLexemes? lexemes = some d ↔ lexemes = d.lexemes := by
  rw [ofLexemes?_eq]
  constructor
  · intro read
    obtain ⟨reader, read, finished⟩ := Option.bind_eq_some_iff.mp read
    have kept := Reader.lexemes_of_readAll read
    unfold Reader.finish? at finished
    split at finished <;> cases finished
    exact kept.symm
  · rintro rfl
    have read := readsTo d [] []
    rw [List.append_nil] at read
    rw [read]
    rfl

end Document

end TeacherRegistry.Json
