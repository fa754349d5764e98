import Mathlib.Data.List.TakeWhile
import TeacherRegistry.Console.Run
import TeacherRegistry.Proofs.FirstRequests
import TeacherRegistry.Proofs.WholeNumbers

/-!
# Naming a record by its listed identifier

The list shows an identifier as a text, and commands read that text as an identifier again. What is
read is the identifier that was shown unless the text has blanks around it or reads as a number that
the server sent as a text. A deletion goes by the text of what was read, so a number sent as a text
does no harm there if it is written plainly; any other text that is read as something else leads to
the record of that other identifier.
-/

namespace TeacherRegistry

namespace Text

theorem isBlankChar_of_isDigit {c : Char} (digit : c.isDigit = true) : isBlankChar c = false := by
  have place := toNat_of_isDigit digit
  rw [isBlankChar, Bool.eq_false_iff]
  intro blank
  obtain ⟨range, among, inside⟩ := (inRanges_iff blankRanges c).mp blank
  have outside : ∀ range ∈ blankRanges, range.2 < 48 ∨ 57 < range.1 := by decide
  have := outside range among
  omega

theorem trim_of_visible {s : String} (visible : ∀ c ∈ s.toList, isBlankChar c = false) :
    trim s = s := by
  have stays : ∀ cs : List Char, (∀ c ∈ cs, isBlankChar c = false) →
      cs.dropWhile isBlankChar = cs := by
    intro cs visible
    rw [List.dropWhile_eq_self_iff]
    intro filled
    simp [visible _ (List.getElem_mem filled)]
  rw [trim, trimBoth, stays s.toList visible,
    stays s.toList.reverse fun c among => visible c (List.mem_reverse.mp among),
    List.reverse_reverse, String.ofList_toList]

/-- There are no blanks in the text of a number. -/
theorem trim_toString (n : Int) : trim (toString n) = toString n := by
  refine trim_of_visible fun c among => ?_
  rw [toList_toString] at among
  rcases mem_integerText among with rfl | digit
  · decide
  · exact isBlankChar_of_isDigit digit

end Text

namespace TeacherId

/-- Whether an identifier is read from the text that it is shown as: it is a number, or a text that
has no blanks around it and is none of a number. -/
def IsReadBack : TeacherId → Prop
  | .number _ => True
  | .text s => Text.trim s = s ∧ Text.int64? s = none

/-- Whether what is read from the text of an identifier is shown as the same text: it is a number or
a text that has no blanks around it and is none of a number, or else that number written plainly. -/
def IsShownAgain : TeacherId → Prop
  | .number _ => True
  | .text s => Text.trim s = s ∧
      ((Text.int64? s).isSome = true → Text.isPlainInteger s.toList = true)

theorem ofString_of_read {s : String} {n : Int64} (read : Text.int64? (Text.trim s) = some n) :
    ofString s = .number n := by
  simp only [ofString, read]

theorem ofString_of_unread {s : String} (unread : Text.int64? (Text.trim s) = none) :
    ofString s = .text (Text.trim s) := by
  simp only [ofString, unread]

theorem ofString_number (n : Int64) : ofString (number n).display = number n := by
  refine ofString_of_read ?_
  rw [display, Text.trim_toString, Text.int64?_toString]

theorem ofString_display_iff (id : TeacherId) : ofString id.display = id ↔ id.IsReadBack := by
  cases id with
  | number n => exact ⟨fun _ => trivial, fun _ => ofString_number n⟩
  | text s =>
    rw [display, IsReadBack]
    cases read : Text.int64? (Text.trim s) with
    | some n =>
      rw [ofString_of_read read]
      constructor
      · intro same
        cases same
      · rintro ⟨trimmed, unread⟩
        rw [trimmed, unread] at read
        cases read
    | none =>
      rw [ofString_of_unread read, TeacherId.text.injEq]
      exact ⟨fun trimmed => ⟨trimmed, trimmed ▸ read⟩, And.left⟩

theorem display_ofString_iff (id : TeacherId) :
    (ofString id.display).display = id.display ↔ id.IsShownAgain := by
  cases id with
  | number n =>
    rw [ofString_number]
    exact ⟨fun _ => trivial, fun _ => rfl⟩
  | text s =>
    rw [display, IsShownAgain]
    cases read : Text.int64? (Text.trim s) with
    | some n =>
      rw [ofString_of_read read, display]
      constructor
      · intro written
        have trimmed : Text.trim s = s := by rw [← written, Text.trim_toString]
        rw [trimmed] at read
        exact ⟨trimmed, fun _ => (Text.toString_eq_iff read).mp written⟩
      · rintro ⟨trimmed, plain⟩
        rw [trimmed] at read
        exact (Text.toString_eq_iff read).mpr (plain (by rw [read]; rfl))
    | none =>
      rw [ofString_of_unread read, display]
      constructor
      · intro trimmed
        rw [trimmed] at read
        exact ⟨trimmed, fun found => by rw [read] at found; cases found⟩
      · exact And.left

end TeacherId

/-! ### Editing -/

namespace Controller

/-- An identifier puts the first listed record that has it into the form, if there is one. -/
theorem beginEditById_iff (c : Controller) (id : TeacherId) (w : World) (teacher : Teacher) :
    (c.beginEditById id w).result = .ok () ∧ (c.beginEditById id w).controller.draft = teacher ↔
      c.find? id = some teacher := by
  unfold beginEditById
  cases found : c.find? id with
  | none =>
    constructor
    · rintro ⟨done, _⟩
      cases done
    · intro there
      cases there
  | some first =>
    constructor
    · rintro ⟨_, rfl⟩
      rfl
    · intro same
      exact ⟨rfl, Option.some.inj same⟩

theorem id_of_find? {c : Controller} {id : TeacherId} {teacher : Teacher}
    (found : c.find? id = some teacher) : teacher.id = some id := by
  simpa using List.find?_some found

theorem find?_of_listed {c : Controller} {id : TeacherId} {teacher : Teacher}
    (listed : teacher ∈ c.collection) (known : teacher.id = some id) :
    ∃ first, c.find? id = some first := by
  cases found : c.find? id with
  | some first => exact ⟨first, rfl⟩
  | none =>
    have unlike := List.find?_eq_none.mp found teacher listed
    exact absurd (beq_iff_eq.mpr known) unlike

/-- The text of a listed identifier puts the first record with that identifier into the form exactly
if the identifier is read back from it. -/
theorem edits_first_iff {c : Controller} {id : TeacherId} {teacher : Teacher}
    (listed : teacher ∈ c.collection) (known : teacher.id = some id) (w : World) :
    let effect := c.beginEditById (.ofString id.display) w
    (effect.result = .ok () ∧ c.find? id = some effect.controller.draft) ↔ id.IsReadBack := by
  intro effect
  rw [← TeacherId.ofString_display_iff]
  constructor
  · rintro ⟨done, first⟩
    -- the record in the form has the identifier that was read as well as the one that was shown
    have named := (c.beginEditById_iff (.ofString id.display) w _).mp ⟨done, rfl⟩
    have same := (id_of_find? named).symm.trans (id_of_find? first)
    exact Option.some.inj same
  · intro same
    obtain ⟨first, found⟩ := find?_of_listed listed known
    have named : c.find? (.ofString id.display) = some first := by rw [same, found]
    obtain ⟨done, put⟩ := (c.beginEditById_iff _ w first).mpr named
    exact ⟨done, by rw [found, ← put]⟩

end Controller

namespace Console

open Controller (load initial)

theorem runUpdate_of_loaded {client : Client} {w : World}
    (loaded : (load client initial w).result = .ok ()) (id : String) (fields : TypedFields) :
    let effect := (load client initial w).controller.beginEditById (.ofString id)
      (load client initial w).world
    runUpdate client id fields w = match effect.result with
      | .ok () => endingOf ((typeFields fields effect.controller).submit client effect.world)
      | .error e => (.error e.message, effect.world) := by
  unfold runUpdate
  generalize load client initial w = listing at loaded ⊢
  obtain ⟨result, c, v⟩ := listing
  cases loaded
  simp only
  cases c.beginEditById (.ofString id) v with
  | mk result c v => cases result <;> rfl

/-- What an update by a listed identifier does. -/
theorem edits_listed_iff {client : Client} {w : World} {teacher : Teacher} {id : TeacherId}
    (loaded : (load client initial w).result = .ok ())
    (listed : teacher ∈ (load client initial w).controller.collection)
    (known : teacher.id = some id) (fields : TypedFields) :
    let list := (load client initial w).controller
    let effect := list.beginEditById (.ofString id.display) (load client initial w).world
    (runUpdate client id.display fields w = match effect.result with
      | .ok () => endingOf ((typeFields fields effect.controller).submit client effect.world)
      | .error e => (.error e.message, effect.world)) ∧
    ((effect.result = .ok () ∧ list.find? id = some effect.controller.draft) ↔ id.IsReadBack) :=
  ⟨runUpdate_of_loaded loaded id.display fields, Controller.edits_first_iff listed known _⟩

/-- A server that lists three records: two under the same text, and one under a text that is a
number. -/
def listing : World :=
  { Desk.sample.world with
    farEnd := .script [.answer ⟨200, [],
      "[\x7b\"id\":\"doc-9\",\"nombre\":\"Ana\"\x7d,\x7b\"id\":\"doc-9\"\x7d,\x7b\"id\":\"7\"\x7d]".toUTF8⟩] }

theorem loaded_listing :
    (load Desk.sample.client initial listing).result = .ok () ∧
      (load Desk.sample.client initial listing).controller.collection =
        [⟨some (.text "doc-9"), "", "Ana", "", ""⟩, ⟨some (.text "doc-9"), "", "", "", ""⟩,
          ⟨some (.text "7"), "", "", "", ""⟩] := by
  have ended : (load Desk.sample.client initial listing).result.toBool = true ∧
      (load Desk.sample.client initial listing).controller.collection =
        [⟨some (.text "doc-9"), "", "Ana", "", ""⟩, ⟨some (.text "doc-9"), "", "", "", ""⟩,
          ⟨some (.text "7"), "", "", "", ""⟩] := by decide +kernel
  refine ⟨?_, ended.2⟩
  cases result : (load Desk.sample.client initial listing).result with
  | ok _ => rfl
  | error e =>
    rw [result] at ended
    cases ended.1

/-- Of two records under one text the first is edited. -/
theorem edits_listed_iff_repeated :
    let list := (load Desk.sample.client initial listing).controller
    let effect := list.beginEditById (.ofString "doc-9")
      (load Desk.sample.client initial listing).world
    effect.result = .ok () ∧
      effect.controller.draft = ⟨some (.text "doc-9"), "", "Ana", "", ""⟩ := by
  obtain ⟨loaded, collection⟩ := loaded_listing
  have listed : ⟨some (.text "doc-9"), "", "", "", ""⟩ ∈
      (load Desk.sample.client initial listing).controller.collection := by
    rw [collection]
    decide
  obtain ⟨_, edits⟩ := edits_listed_iff loaded listed rfl []
  obtain ⟨done, first⟩ := edits.mpr ⟨by decide, by decide⟩
  refine ⟨done, Option.some.inj (first.symm.trans ?_)⟩
  rw [Controller.find?, collection]
  decide

/-- A record with a number for its text is listed and cannot be edited: the text is read as a
number, and no record has that. -/
theorem numeral_not_edited :
    ¬ ∀ (client : Client) (w : World) (teacher : Teacher) (id : TeacherId),
      (load client initial w).result = .ok () →
      teacher ∈ (load client initial w).controller.collection → teacher.id = some id →
        let list := (load client initial w).controller
        let effect := list.beginEditById (.ofString id.display) (load client initial w).world
        effect.result = .ok () ∧ list.find? id = some effect.controller.draft := by
  intro always
  obtain ⟨loaded, collection⟩ := loaded_listing
  have listed : ⟨some (.text "7"), "", "", "", ""⟩ ∈
      (load Desk.sample.client initial listing).controller.collection := by
    rw [collection]
    decide
  have edited := always Desk.sample.client listing _ _ loaded listed rfl
  have readBack := (Controller.edits_first_iff listed rfl _).mp edited
  exact absurd readBack.2 (by decide)

/-! ### Deleting -/

/-- The requests of the command are those of the deletion. -/
theorem requests_runDelete (client : Client) (coloured : Bool) (id : String) (w : World) :
    ((runDelete client coloured id w).2.since w).requests =
      ((initial.delete client (.ofString id) w).world.since w).requests := by
  have precedes := (Controller.leads_delete client initial (.ofString id) w).precedes
  unfold runDelete
  generalize initial.delete client (.ofString id) w = effect at precedes ⊢
  obtain ⟨result, c, v⟩ := effect
  split
  next same =>
    cases same
    rfl
  next later same =>
    cases same
    have said : v.Silent (v.print (Style.dimmed.render coloured "Operación cancelada")) :=
      ⟨_, rfl, rfl, rfl⟩
    rw [World.since_trans precedes said.precedes, Journal.requests_append,
      Journal.requests_eq (World.since _ v), said.hops_since, List.map_nil, List.append_nil]
  next same =>
    cases same
    rfl

/-- A deletion by the text of an identifier asks first and then goes to the path of what was read
from the text. This is the path of that identifier exactly if what was read is shown as the same
text again. -/
theorem deletes_listed_iff (client : Client) (coloured : Bool) (id : TeacherId) (w : World) :
    let named := TeacherId.ofString id.display
    let asked := (w.enter (.delete named.display)).ask Controller.deleteQuestion
    ((runDelete client coloured id.display w).2.since w).requests.head? =
        (if asked.1 then client.firstRequest? "DELETE" (Controller.itemPath named) none asked.2
          else none) ∧
      (Controller.itemPath named = Controller.itemPath id ↔ id.IsShownAgain) := by
  intro named asked
  constructor
  · rw [requests_runDelete]
    exact Controller.head?_requests_of_delete client initial w named
  · rw [← TeacherId.display_ofString_iff, Controller.itemPath, Controller.itemPath]
    -- the two paths differ in their last parts only
    refine ⟨fun same => ?_, fun same => by rw [same]⟩
    have texts := congrArg String.toList same
    simp only [String.toList_append, List.append_cancel_left_eq] at texts
    exact String.toList_injective texts

/-- A text with zeros in front of a number leads a deletion to the record of that number. -/
theorem padded_deletes_other :
    ¬ ∀ id : TeacherId,
      Controller.itemPath (.ofString id.display) = Controller.itemPath id := by
  intro always
  have strays : Controller.itemPath (.ofString (TeacherId.text "007").display) =
      Controller.itemPath (.number 7) := by decide
  rw [always] at strays
  exact absurd strays (by decide)

end Console

end TeacherRegistry
