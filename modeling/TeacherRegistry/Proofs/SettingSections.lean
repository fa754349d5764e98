import TeacherRegistry.Config.Layers
import TeacherRegistry.Proofs.CaseForms
import TeacherRegistry.Proofs.DictionaryOrder

/-!
# Sections of names

The name of an option is taken apart below every section that it is in. Where a section ends is told
by its bytes, as a place among characters, so a name beyond ASCII may have no such place. In ASCII
every name can be taken apart.
-/

namespace TeacherRegistry

namespace Text

theorem dropBytes?_of_ascii {cs : List Char} (ascii : ∀ c ∈ cs, c.toNat < 128) {n : Nat}
    (short : n ≤ cs.length) : dropBytes? cs n = some (cs.drop n) := by
  induction cs generalizing n with
  | nil =>
    obtain rfl : n = 0 := Nat.le_zero.mp short
    rfl
  | cons c rest ih =>
    cases n with
    | zero => rfl
    | succ n =>
      obtain ⟨small, others⟩ := List.forall_mem_cons.mp ascii
      rw [dropBytes?, utf8Size_of_ascii small, if_pos (Nat.succ_le_succ n.zero_le),
        Nat.add_sub_cancel, ih others (Nat.le_of_succ_le_succ short), List.drop_succ_cons]

theorem isAscii_ofList {cs : List Char} (ascii : ∀ c ∈ cs, c.toNat < 128) :
    IsAscii (String.ofList cs) := by
  rw [IsAscii, String.toList_ofList]
  exact ascii

theorem isAscii_append {s t : String} (left : IsAscii s) (right : IsAscii t) :
    IsAscii (s ++ t) := by
  rw [IsAscii, String.toList_append]
  exact fun c among => (List.mem_append.mp among).elim (left c) (right c)

end Text

namespace Config

open Text (IsAscii)

namespace Layer

/-- A layer with keys and names in ASCII, no key being longer than its name. -/
def IsAscii (layer : Layer) : Prop :=
  ∀ entry ∈ layer, Text.IsAscii entry.1 ∧ Text.IsAscii entry.2.written ∧
    entry.1.toList.length ≤ entry.2.written.toList.length

theorem isAscii_firstPart {cs : List Char} (ascii : ∀ c ∈ cs, c.toNat < 128) :
    Text.IsAscii (firstPart cs) :=
  Text.isAscii_ofList fun c among => ascii c ((List.takeWhile_sublist _).subset among)

/-- A name in ASCII can be taken apart. -/
theorem partBelow?_of_ascii {parent key : String} {setting : Setting}
    (closed : Text.IsAscii parent) (ascii : Text.IsAscii key)
    (written : Text.IsAscii setting.written)
    (short : key.toList.length ≤ setting.written.toList.length) :
    ∃ found, partBelow? parent key setting = some found ∧ ∀ part ∈ found, Text.IsAscii part := by
  unfold partBelow?
  simp only [Text.utf8ByteSize_of_ascii closed, Text.utf8ByteSize_of_ascii ascii]
  split
  next inside =>
    have shorter := of_decide_eq_true (Bool.and_eq_true_iff.mp inside).1
    rw [List.getElem?_eq_getElem shorter]
    split
    next impossible => cases impossible
    next colon =>
      rw [Text.dropBytes?_of_ascii written (by omega)]
      refine ⟨_, rfl, fun part same => ?_⟩
      cases same
      exact isAscii_firstPart fun c among => written c ((List.drop_sublist _ _).subset among)
    · exact ⟨none, rfl, fun part impossible => by cases impossible⟩
  · exact ⟨none, rfl, fun part impossible => by cases impossible⟩

end Layer

theorem exists_mapM {α β : Type} {f : α → Option β} {p : β → Prop} {entries : List α}
    (each : ∀ entry ∈ entries, ∃ image, f entry = some image ∧ p image) :
    ∃ images, entries.mapM f = some images ∧ ∀ image ∈ images, p image := by
  induction entries with
  | nil => exact ⟨[], rfl, fun _ impossible => by cases impossible⟩
  | cons first rest ih =>
    obtain ⟨⟨image, found, holds⟩, others⟩ := List.forall_mem_cons.mp each
    obtain ⟨images, mapped, all⟩ := ih others
    rw [List.mapM_cons, found, mapped]
    exact ⟨image :: images, rfl, List.forall_mem_cons.mpr ⟨holds, all⟩⟩

theorem Layer.below?_of_ascii {layer : Layer} (ascii : layer.IsAscii) {parent : String}
    (above : Text.IsAscii parent) :
    ∃ parts, layer.below? parent = some parts ∧ ∀ part ∈ parts, Text.IsAscii part := by
  obtain ⟨found, mapped, each⟩ := exists_mapM fun entry among =>
    partBelow?_of_ascii above (ascii entry among).1 (ascii entry among).2.1
      (ascii entry among).2.2
  refine ⟨found.filterMap id, ?_, fun part among => ?_⟩
  · rw [below?, mapped]
    rfl
  · obtain ⟨_, member, same⟩ := List.mem_filterMap.mp among
    exact each _ member part same

section

variable {layers : List Layer} (ascii : ∀ layer ∈ layers, layer.IsAscii)
include ascii

theorem isSeparable_of_ascii (depth : Nat) {name : String} (plain : Text.IsAscii name) :
    isSeparable layers depth name = true := by
  induction depth generalizing name with
  | zero => rfl
  | succ depth ih =>
    obtain ⟨parts, mapped, each⟩ := exists_mapM fun layer among =>
      Layer.below?_of_ascii (ascii layer among) (Text.isAscii_upper plain)
    rw [isSeparable, mapped]
    simp only [List.all_eq_true, List.mem_eraseDups, List.mem_map, List.mem_flatten]
    rintro _ ⟨part, ⟨others, member, among⟩, rfl⟩
    have colon : Text.IsAscii ":" := by decide
    exact ih (Text.isAscii_append (Text.isAscii_append (Text.isAscii_upper plain) colon)
      (Text.isAscii_upper (each others member part among)))

/-- Layers in ASCII can be merged. -/
theorem merge_of_ascii : ∃ options, merge layers = .ok options := by
  unfold merge
  simp only
  rw [if_pos]
  · exact ⟨_, rfl⟩
  · simp only [List.all_eq_true, List.mem_eraseDups, List.mem_map, List.mem_flatten]
    rintro _ ⟨entry, ⟨layer, among, member⟩, rfl⟩
    exact isSeparable_of_ascii ascii _
      (Layer.isAscii_firstPart (ascii layer among entry member).2.1)

end

/-! ### Layers in ASCII -/

theorem length_colons_le (cs : List Char) : (colons cs).length ≤ cs.length := by
  fun_induction colons cs <;> grind

theorem mem_colons {cs : List Char} {c : Char} (among : c ∈ colons cs) : c = ':' ∨ c ∈ cs := by
  fun_induction colons cs <;> grind

theorem Layer.isAscii_ofOptions {key : String → String} {options : List (String × String)}
    (each : ∀ option ∈ options, Text.IsAscii (key option.1) ∧ Text.IsAscii option.1 ∧
      (key option.1).toList.length ≤ option.1.toList.length) :
    (Layer.ofOptions key options).IsAscii := by
  intro entry member
  obtain ⟨option, among, rfl⟩ := List.mem_map.mp (Dictionary.mem_of_mem_ofList member)
  exact each option among

theorem length_upper_of_ascii {s : String} (ascii : Text.IsAscii s) :
    (Text.upper s).toList.length = s.toList.length := by
  rw [Text.upper_of_ascii ascii, String.toList_ofList, List.length_map]

theorem Layer.isAscii_ofFile {options : List (String × String)}
    (ascii : ∀ option ∈ options, Text.IsAscii option.1) : (Layer.ofFile options).IsAscii :=
  isAscii_ofOptions fun option among =>
    ⟨Text.isAscii_upper (ascii option among), ascii option among,
      (length_upper_of_ascii (ascii option among)).le⟩

theorem Layer.isAscii_ofEnvironment {environment : Environment}
    (ascii : ∀ option ∈ environment.filterMap variableOption?, Text.IsAscii option.1) :
    (Layer.ofEnvironment environment).IsAscii := by
  refine isAscii_ofOptions fun option among => ⟨?_, ascii option among, ?_⟩
  · refine Text.isAscii_ofList fun c member => ?_
    rcases mem_colons member with rfl | member
    · decide
    · exact Text.isAscii_upper (ascii option among) c member
  · rw [String.toList_ofList, ← length_upper_of_ascii (ascii option among)]
    exact length_colons_le _

end Config

end TeacherRegistry
