import Mathlib.Data.List.Find
import Mathlib.Data.List.Nodup
import Mathlib.Data.List.TakeWhile
import TeacherRegistry.Config.Layers
import TeacherRegistry.Proofs.CaseForms
import TeacherRegistry.Proofs.JsonRoundTrip
import TeacherRegistry.Proofs.SettingSections
import TeacherRegistry.Proofs.SettingTexts

/-!
# Settings of all layers

A configuration file and the environment both have texts for settings. What counts is the text of the
variable of a setting, and that of the file only if there is no such variable; what is found under
other names makes no difference. From these texts the settings are read, so a text in the file that
could not be read does no harm under a variable.
-/

namespace TeacherRegistry

namespace Dictionary

variable {α β : Type}

theorem mem_of_get? {d : Dictionary α} {key : String} {value : α}
    (found : get? d key = some value) : (key, value) ∈ d := by
  induction d with
  | nil => cases found
  | cons first rest ih =>
    rw [get?] at found
    split at found
    next same =>
      cases found
      exact same ▸ List.mem_cons_self
    · exact List.mem_cons_of_mem _ (ih found)

/-- Of the entries that are collected under one key the last is found. -/
theorem get?_ofList_map (entries : List β) (key : β → String) (value : β → α) (sought : String) :
    get? (ofList (entries.map fun entry => (key entry, value entry))) sought =
      (entries.reverse.find? fun entry => key entry == sought).map value := by
  rw [get?_ofList, ← List.map_reverse]
  induction entries.reverse with
  | nil => rfl
  | cons first rest ih =>
    rw [List.map_cons, List.lookup_cons, List.find?_cons, ih]
    by_cases same : key first = sought
    · subst same
      simp
    · rw [beq_eq_false_iff_ne.mpr same, beq_eq_false_iff_ne.mpr (Ne.symm same)]

section

variable {entries : List β} {key : β → String} (distinct : (entries.map key).Nodup)
include distinct

theorem find?_of_distinct {entry : β} (among : entry ∈ entries) :
    entries.find? (key · == key entry) = some entry := by
  cases found : entries.find? (key · == key entry) with
  | none => exact absurd (beq_self_eq_true _) (List.find?_eq_none.mp found entry among)
  | some other =>
    have same := List.find?_some found
    rw [List.inj_on_of_nodup_map distinct (List.mem_of_find?_eq_some found) among (eq_of_beq same)]

theorem find?_reverse_of_distinct (sought : String) :
    entries.reverse.find? (key · == sought) = entries.find? (key · == sought) := by
  cases found : entries.find? (key · == sought) with
  | none =>
    rw [List.find?_eq_none] at found ⊢
    exact fun entry among => found entry (List.mem_reverse.mp among)
  | some entry =>
    have same := List.find?_some found
    rw [← eq_of_beq same]
    refine find?_of_distinct ?_ (List.mem_reverse.mpr (List.mem_of_find?_eq_some found))
    rw [List.map_reverse, List.nodup_reverse]
    exact distinct

end

end Dictionary

namespace Config

open Json (Value)

/-! ### What layers say -/

/-- Whether an option in a layer is written as a setting, or as something below it, in any case. -/
def Layer.mentions (layer : Layer) (name : String) : Bool :=
  layer.any fun entry => Text.lower (firstPart entry.2.written.toList) == name

/-- Of the options of a layer with one key the last is found. -/
theorem Layer.get?_ofOptions (key : String → String) (options : List (String × String))
    (sought : String) : Dictionary.get? (Layer.ofOptions key options) sought =
      (options.reverse.find? fun option => key option.1 == sought).map
        fun option => ⟨option.1, option.2⟩ :=
  Dictionary.get?_ofList_map options (key ·.1) (fun option => Setting.mk option.1 option.2) sought

/-- The text that layers have for a setting, if one of them mentions it. -/
theorem get?_merge {layers : List Layer} {options : Options} (merged : merge layers = .ok options)
    {name : String} (plain : ∀ c ∈ name.toList, Text.isNameChar c = true) :
    options.get? name =
      if layers.any (·.mentions name) then
        some ((layers.reverse.findSome? fun layer =>
          (Dictionary.get? layer (Text.upper name)).map Setting.value).getD "")
      else none := by
  unfold merge at merged
  simp only at merged
  split at merged
  · cases merged
    -- there is an option for the first part of each name, whatever stands behind it
    have mentioned : (∃ part ∈ (layers.flatten.map fun entry =>
        Layer.firstPart entry.2.written.toList).eraseDups, Text.lower part = name) ↔
          layers.any (·.mentions name) = true := by
      simp only [Layer.mentions, List.mem_eraseDups, List.mem_map, List.mem_flatten,
        List.any_eq_true, beq_iff_eq]
      constructor
      · rintro ⟨_, ⟨entry, ⟨layer, among, member⟩, rfl⟩, same⟩
        exact ⟨layer, among, entry, member, same⟩
      · rintro ⟨layer, among, entry, member, same⟩
        exact ⟨_, ⟨entry, ⟨layer, among, member⟩, rfl⟩, same⟩
    rw [Dictionary.get?_ofList_map]
    cases found : List.find? _ _ with
    | none =>
      rw [if_neg, Option.map_none]
      rw [← mentioned]
      rintro ⟨part, among, same⟩
      have other := List.find?_eq_none.mp found part (List.mem_reverse.mpr among)
      exact other (beq_iff_eq.mpr same)
    | some part =>
      have fits := List.find?_some found
      have same : Text.lower part = name := eq_of_beq fits
      have among := List.mem_reverse.mp (List.mem_of_find?_eq_some found)
      rw [if_pos (mentioned.mp ⟨part, among, same⟩), Option.map_some,
        Text.upper_of_lower plain same]
  · cases merged


/-! ### Variables -/

/-- Variables of options whose names are of ASCII and without colons. -/
def Environment.IsPlain (environment : Environment) : Prop :=
  ∀ option ∈ environment.filterMap variableOption?,
    Text.IsAscii option.1 ∧ ':' ∉ option.1.toList

/-- The text of the variable of a setting, in any case; of several the last counts. -/
def variableText? (environment : Environment) (name : String) : Option String :=
  ((environment.filterMap variableOption?).reverse.find? fun option =>
    Text.lower option.1 == name).map Prod.snd

theorem colons_of_free {cs : List Char} (free : ':' ∉ colons cs) : colons cs = cs := by
  fun_induction colons cs with
  | case1 rest ih => exact absurd List.mem_cons_self free
  | case2 c rest _ ih =>
    rw [ih fun among => free (List.mem_cons_of_mem c among)]
  | case3 => rfl

/-- What is needed of the name of a setting: it is plain, in lower case, and as the name of a
variable it has no colons. -/
structure IsName (name : String) : Prop where
  plain : ∀ c ∈ name.toList, Text.isNameChar c = true
  lower : Text.lower name = name
  free : ':' ∉ (Text.upper name).toList
  colons : colons (Text.upper name).toList = (Text.upper name).toList

theorem isName_of_mem {name : String} (among : name ∈ names) : IsName name := by
  have each : ∀ name ∈ names, name.toList.all Text.isNameChar = true ∧ Text.IsAscii name ∧
      String.ofList (name.toList.map Char.toLower) = name ∧
      ':' ∉ name.toList.map Char.toUpper ∧
      colons (name.toList.map Char.toUpper) = name.toList.map Char.toUpper := by decide +kernel
  obtain ⟨plain, ascii, lower, free, colons⟩ := each name among
  refine ⟨List.all_eq_true.mp plain, (Text.lower_of_ascii ascii).trans lower, ?_, ?_⟩
  · rw [Text.upper_of_ascii ascii, String.toList_ofList]
    exact free
  · rw [Text.upper_of_ascii ascii, String.toList_ofList]
    exact colons

variable {environment : Environment} {name : String}

/-- In ASCII a text has the upper case of a setting if it is that setting in any case. -/
theorem upper_eq_iff (setting : IsName name) {written : String} (ascii : Text.IsAscii written) :
    Text.upper written = Text.upper name ↔ Text.lower written = name := by
  constructor
  · intro same
    have plain : Text.IsAscii name := fun c among =>
      Text.ascii_of_isNameChar (setting.plain c among)
    rw [← Text.lower_upper_of_ascii ascii, same, Text.lower_upper_of_ascii plain, setting.lower]
  · exact Text.upper_of_lower setting.plain

theorem variableKey_iff (setting : IsName name) {written : String} (ascii : Text.IsAscii written) :
    String.ofList (colons (Text.upper written).toList) = Text.upper name ↔
      Text.lower written = name := by
  constructor
  · intro same
    have chars : colons (Text.upper written).toList = (Text.upper name).toList := by
      rw [← same, String.toList_ofList]
    have free : ':' ∉ colons (Text.upper written).toList := by
      rw [chars]
      exact setting.free
    exact (upper_eq_iff setting ascii).mp
      (String.toList_inj.mp ((colons_of_free free).symm.trans chars))
  · intro same
    rw [Text.upper_of_lower setting.plain same, setting.colons, String.ofList_toList]

theorem get?_ofEnvironment (plain : environment.IsPlain) (setting : IsName name) :
    Dictionary.get? (Layer.ofEnvironment environment) (Text.upper name) =
      ((environment.filterMap variableOption?).reverse.find? fun option =>
        Text.lower option.1 == name).map fun option => ⟨option.1, option.2⟩ := by
  rw [Layer.ofEnvironment, Layer.get?_ofOptions]
  refine congrArg (Option.map _) (List.find?_congr fun option among => ?_)
  rw [Bool.eq_iff_iff, beq_iff_eq, beq_iff_eq]
  exact variableKey_iff setting (plain option (List.mem_reverse.mp among)).1

theorem firstPart_of_free {cs : List Char} (free : ':' ∉ cs) :
    Layer.firstPart cs = String.ofList cs := by
  rw [Layer.firstPart, List.takeWhile_eq_self_iff.mpr]
  intro c among
  exact bne_iff_ne.mpr fun same => free (same ▸ among)

/-- The environment mentions a setting exactly if it has its variable. -/
theorem mentions_ofEnvironment (plain : environment.IsPlain) (setting : IsName name) :
    (Layer.ofEnvironment environment).mentions name = (variableText? environment name).isSome := by
  rw [Bool.eq_iff_iff, Layer.mentions, List.any_eq_true, variableText?, Option.isSome_map,
    List.find?_isSome]
  constructor
  · rintro ⟨entry, member, same⟩
    have collected := Dictionary.mem_of_mem_ofList member
    obtain ⟨option, among, rfl⟩ := List.mem_map.mp collected
    rw [firstPart_of_free (plain option among).2, String.ofList_toList] at same
    exact ⟨option, List.mem_reverse.mpr among, same⟩
  · intro given
    rw [← List.find?_isSome, Option.isSome_iff_exists] at given
    obtain ⟨option, found⟩ := given
    have same := List.find?_some found
    have among := List.mem_reverse.mp (List.mem_of_find?_eq_some found)
    have collected := get?_ofEnvironment plain setting
    rw [found, Option.map_some] at collected
    refine ⟨_, Dictionary.mem_of_get? collected, ?_⟩
    rw [firstPart_of_free (plain option among).2, String.ofList_toList]
    exact same

/-! ### Members of a file -/

/-- Whether nothing is nested in a value. -/
def isScalar : Value → Bool
  | .array _ | .object _ => false
  | _ => true

/-- The key under which a member of a file is found: the upper case of its name, which is written
with a capital. -/
def memberKey (member : String × Value) : String :=
  Text.upper (Text.capitalized member.1)

/-- Whether the name of a member, up to its first colon, is that of a setting in any case. -/
def isMemberOf (name : String) (member : String × Value) : Bool :=
  Text.lower (Layer.firstPart (Text.capitalized member.1).toList) == name

/-- The text that a file has for a setting. A member below the setting, with a colon behind its name,
makes it blank unless there is a text for itself. -/
def fileText? (members : List (String × Value)) (name : String) : Option String :=
  if members.any (isMemberOf name) then
    some (((members.find? (memberKey · == Text.upper name)).map (leafText ·.2)).getD "")
  else none

/-- Members of a file that nothing is nested in, with names that differ in more than their case. -/
structure IsFlat (members : List (String × Value)) : Prop where
  scalar : ∀ member ∈ members, isScalar member.2 = true
  distinct : (members.map memberKey).Nodup

theorem flattenMembers_of_flat {members : List (String × Value)}
    (scalar : ∀ member ∈ members, isScalar member.2 = true) :
    flattenMembers [] members =
      members.map fun member => (Text.capitalized member.1, leafText member.2) := by
  induction members with
  | nil => rfl
  | cons member rest ih =>
    obtain ⟨name, value⟩ := member
    obtain ⟨single, others⟩ := List.forall_mem_cons.mp scalar
    have flat : flatten [Text.capitalized name] value =
        [(Text.capitalized name, leafText value)] := by
      cases value with
      | array => cases single
      | object => cases single
      | _ => rfl
    rw [flattenMembers, List.nil_append, flat, ih others]
    rfl

variable {members : List (String × Value)}

theorem ofFile_of_flat (flat : IsFlat members) : Layer.ofFile (flattenMembers [] members) =
    Dictionary.ofList (members.map fun member =>
      (memberKey member, Setting.mk (Text.capitalized member.1) (leafText member.2))) := by
  rw [flattenMembers_of_flat flat.scalar, Layer.ofFile, Layer.ofOptions, List.map_map]
  rfl

theorem get?_ofFile (flat : IsFlat members) (key : String) :
    Dictionary.get? (Layer.ofFile (flattenMembers [] members)) key =
      (members.find? (memberKey · == key)).map fun member =>
        ⟨Text.capitalized member.1, leafText member.2⟩ := by
  rw [ofFile_of_flat flat, Dictionary.get?_ofList_map,
    Dictionary.find?_reverse_of_distinct flat.distinct]

theorem mentions_ofFile (flat : IsFlat members) (name : String) :
    (Layer.ofFile (flattenMembers [] members)).mentions name = members.any (isMemberOf name) := by
  rw [Bool.eq_iff_iff, Layer.mentions, List.any_eq_true, List.any_eq_true]
  constructor
  · rintro ⟨entry, member, same⟩
    rw [ofFile_of_flat flat] at member
    obtain ⟨_, among, rfl⟩ := List.mem_map.mp (Dictionary.mem_of_mem_ofList member)
    exact ⟨_, among, same⟩
  · rintro ⟨member, among, same⟩
    -- no other member is found under its key
    have found := Dictionary.find?_of_distinct flat.distinct among
    have collected := get?_ofFile flat (memberKey member)
    rw [found, Option.map_some] at collected
    exact ⟨_, Dictionary.mem_of_get? collected, same⟩

/-- Where there are no colons in names, the text for a setting is that of the member with its name in
any case. -/
theorem fileText?_of_free (ascii : ∀ member ∈ members, Text.IsAscii member.1)
    (free : ∀ member ∈ members, ':' ∉ member.1.toList) (setting : IsName name) :
    fileText? members name =
      (members.find? fun member => Text.lower member.1 == name).map (leafText ·.2) := by
  have own : ∀ member ∈ members, isMemberOf name member = (Text.lower member.1 == name) := by
    intro member among
    have single := Text.notMem_capitalized_of_ascii (ascii member among) (free member among)
    rw [isMemberOf, firstPart_of_free single, String.ofList_toList,
      Text.lower_capitalized_of_ascii (ascii member among)]
  have found : members.find? (memberKey · == Text.upper name) =
      members.find? fun member => Text.lower member.1 == name := by
    refine List.find?_congr fun member among => ?_
    rw [Bool.eq_iff_iff, beq_iff_eq, beq_iff_eq, memberKey,
      upper_eq_iff setting (Text.isAscii_capitalized (ascii member among)),
      Text.lower_capitalized_of_ascii (ascii member among)]
  have mentioned : members.any (isMemberOf name) =
      (members.find? fun member => Text.lower member.1 == name).isSome := by
    rw [Bool.eq_iff_iff, List.any_eq_true, List.find?_isSome]
    constructor
    · rintro ⟨member, among, same⟩
      exact ⟨member, among, own member among ▸ same⟩
    · rintro ⟨member, among, same⟩
      exact ⟨member, among, (own member among).trans same⟩
  rw [fileText?, found, mentioned]
  cases members.find? fun member => Text.lower member.1 == name <;> rfl

/-- The text that a file and the environment have for a setting: that of its variable, else that of
the file. -/
def text? (members : List (String × Value)) (environment : Environment) (name : String) :
    Option String :=
  (variableText? environment name).or (fileText? members name)

theorem get?_layers (flat : IsFlat members) (plain : environment.IsPlain) {options : Options}
    (merged : merge [.ofFile (flattenMembers [] members), .ofEnvironment environment] =
      .ok options) (setting : IsName name) :
    options.get? name = text? members environment name := by
  rw [get?_merge merged setting.plain]
  simp only [List.any_cons, List.any_nil, List.reverse_cons, List.reverse_nil, List.nil_append,
    List.singleton_append, List.findSome?_cons, mentions_ofFile flat,
    mentions_ofEnvironment plain setting, get?_ofEnvironment plain setting, get?_ofFile flat]
  unfold text? variableText? fileText?
  cases (environment.filterMap variableOption?).reverse.find? fun option =>
      Text.lower option.1 == name with
  | some option => simp
  | none =>
    cases members.any (isMemberOf name) with
    | false => simp
    | true => 
      cases members.find? (memberKey · == Text.upper name) <;> simp

/-! ### Settings -/

/-- The members that are read of a configuration file: those of the object in it, and none if there
is nothing to read. -/
def FileHolds (disk : Disk) (path : String) (members : List (String × Value)) : Prop :=
  match disk.read path with
  | .content bytes => Value.ofBytes? bytes = some (.object members)
  | .missing | .failed => members = []

/-- Whether the names of all options can be taken apart. -/
def CanMerge (members : List (String × Value)) (environment : Environment) : Prop :=
  ∃ options, merge [.ofFile (flattenMembers [] members), .ofEnvironment environment] = .ok options

variable {disk : Disk} {file : Option String}

theorem layers_of_fileHolds (holds : FileHolds disk (file.getD defaultFile) members) :
    layers disk file environment =
      merge [.ofFile (flattenMembers [] members), .ofEnvironment environment] := by
  have read : readFile disk (file.getD defaultFile) = .ok (flattenMembers [] members) := by
    unfold FileHolds at holds
    unfold readFile
    generalize disk.read (file.getD defaultFile) = reading at holds ⊢
    cases reading with
    | content bytes =>
      simp only at holds ⊢
      rw [fileOptions, holds]
    | missing =>
      cases holds
      rfl
    | failed =>
      cases holds
      rfl
  rw [layers, read]
  rfl

theorem canMerge_of_ascii (flat : IsFlat members) (plain : environment.IsPlain)
    (ascii : ∀ member ∈ members, Text.IsAscii member.1) : CanMerge members environment := by
  refine merge_of_ascii fun layer among => ?_
  simp only [List.mem_cons, List.not_mem_nil, or_false] at among
  rcases among with rfl | rfl
  · refine Layer.isAscii_ofFile fun option member => ?_
    rw [flattenMembers_of_flat flat.scalar, List.mem_map] at member
    obtain ⟨member, among, rfl⟩ := member
    exact Text.isAscii_capitalized (ascii member among)
  · exact Layer.isAscii_ofEnvironment fun option member => (plain option member).1

theorem error_of_merge {layers : List Layer} (broken : ¬ ∃ options, merge layers = .ok options) :
    merge layers = .error .brokenName := by
  unfold merge at broken ⊢
  simp only at broken ⊢
  split
  next separable => exact absurd ⟨_, if_pos separable⟩ broken
  · rfl

/-- Of a flat file, or none, and any variables the settings are what the texts of the two spell, and
if these spell none they are rejected for the first that cannot be read. The one failure besides is
that of names that cannot be taken apart, which does not happen in ASCII. -/
theorem load_layered (holds : FileHolds disk (file.getD defaultFile) members)
    (flat : IsFlat members) (plain : environment.IsPlain) :
    ((∀ member ∈ members, Text.IsAscii member.1) → CanMerge members environment) ∧
      (¬ CanMerge members environment → load disk file environment = .error .brokenName) ∧
      (CanMerge members environment →
        (∀ config, load disk file environment = .ok config ↔
          Spells (text? members environment) config) ∧
        ∀ e, load disk file environment = .error e ↔
          Rejects (text? members environment) e) := by
  have merged : layers disk file environment = _ := layers_of_fileHolds holds
  refine ⟨canMerge_of_ascii flat plain, fun broken => ?_, fun ⟨options, whole⟩ => ?_⟩
  · rw [load, merged, error_of_merge broken]
    rfl
  · have same : ∀ name ∈ names, options.get? name = text? members environment name :=
      fun name among => get?_layers flat plain whole (isName_of_mem among)
    have read : load disk file environment = ofOptions options := by
      rw [load, merged, whole]
      rfl
    rw [read]
    refine ⟨fun config => ofOptions_eq_ok_iff.trans ⟨?_, ?_⟩, fun e =>
      ofOptions_eq_error_iff.trans ⟨?_, ?_⟩⟩
    · exact Spells.congr same
    · exact Spells.congr fun name among => (same name among).symm
    · exact Rejects.congr same
    · exact Rejects.congr fun name among => (same name among).symm

/-- A disk with a configuration file of texts in the working directory. -/
def settingsDisk (texts : Dictionary String) : Disk :=
  ⟨[("work", .directory [(defaultFile, .file (Value.ofEntries texts).text.toUTF8)])], ["work"]⟩

theorem fileHolds_settingsDisk {texts : Dictionary String} (sorted : texts.Sorted) :
    FileHolds (settingsDisk texts) defaultFile
      (texts.map fun entry => (entry.1, .string entry.2)) := by
  have fits : (Value.ofEntries texts).Fits Json.depthLimit := by
    refine .object _ _ (List.pairwise_map.mpr sorted) fun member among => ?_
    obtain ⟨_, _, rfl⟩ := List.mem_map.mp among
    exact .string _ _
  have read := fits.ofString?_text (Value.whole_ofEntries texts)
  show Value.ofBytes? (Value.ofEntries texts).text.toUTF8 = some (Value.ofEntries texts)
  rw [Value.ofBytes?, Json.Document.ofBytes?_toUTF8]
  exact read

/-- A timeout in the file that cannot be read does no harm under the variable. -/
theorem load_layered_overridden :
    load (settingsDisk [("Timeout_SECS", "ten"), ("max_retries", "2"), ("theme", "dark")]) none
        [("EDUDATA_TIMEOUT_SECS", " 3 ")] =
      .ok { default with timeoutMillis := 3000, maxRetries := 2 } := by
  have sorted : Dictionary.Sorted
      [("Timeout_SECS", "ten"), ("max_retries", "2"), ("theme", "dark")] := by
    unfold Dictionary.Sorted
    decide
  have flat : IsFlat [("Timeout_SECS", .string "ten"), ("max_retries", .string "2"),
      ("theme", .string "dark")] := ⟨by decide, by decide +kernel⟩
  have plain : Environment.IsPlain [("EDUDATA_TIMEOUT_SECS", " 3 ")] := by
    unfold Environment.IsPlain
    decide +kernel
  have holds : FileHolds _ (Option.getD none defaultFile) _ := fileHolds_settingsDisk sorted
  obtain ⟨separable, _, law⟩ := load_layered holds flat plain
  refine ((law (separable (by decide))).1 _).mpr ⟨?_, default.validate_iff.mp validate_default,
    ?_, ?_, ?_, ?_⟩
  all_goals decide +kernel

/-- A name with a colon behind that of a setting is no other name: the setting is blank for it. -/
theorem colon_not_independent :
    ¬ ∀ (disk : Disk) (members : List (String × Value)) (environment : Environment),
      FileHolds disk defaultFile members → IsFlat members → environment.IsPlain →
        ∀ config, load disk none environment = .ok config ↔
          Spells (fun name => (variableText? environment name).or
            ((members.find? fun member => Text.lower member.1 == name).map (leafText ·.2)))
            config := by
  intro independent
  have holds := fileHolds_settingsDisk (List.pairwise_singleton _ ("timeout_secs:x", "1"))
  have spells := (independent _ _ [] holds ⟨by decide, by decide⟩ nofun default).mpr
    ⟨by decide +kernel, default.validate_iff.mp validate_default, by decide +kernel,
      by decide +kernel, by decide +kernel, by decide +kernel⟩
  have fails : (load (settingsDisk [("timeout_secs:x", "1")]) none []).toOption = none := by
    decide +kernel
  rw [spells] at fails
  cases fails

end Config

end TeacherRegistry
