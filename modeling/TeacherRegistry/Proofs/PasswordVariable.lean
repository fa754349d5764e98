import TeacherRegistry.Config.VariableFile
import TeacherRegistry.Console.Run
import TeacherRegistry.Proofs.DictionaryOrder

/-!
# The password among the settings

The variable of the password begins like the variables that options are read from, so the password
becomes an option, named `PASSWORD`. No setting is read from an option of that name, and what the
layers do with it goes by its name alone. So the settings of a run do not depend on the password.
-/

namespace TeacherRegistry

namespace Dictionary

variable {α : Type}

/-- Changes values by their keys. -/
def mapValues (change : String → α → α) (d : Dictionary α) : Dictionary α :=
  d.map fun entry => (entry.1, change entry.1 entry.2)

variable (change : String → α → α)

theorem get?_mapValues (d : Dictionary α) (key : String) :
    get? (d.mapValues change) key = (get? d key).map (change key) := by
  induction d with
  | nil => rfl
  | cons first rest ih =>
    unfold mapValues at ih
    rw [mapValues, List.map_cons, get?, get?, ih]
    by_cases same : first.1 = key
    · rw [if_pos same, if_pos same, same]
      rfl
    · rw [if_neg same, if_neg same]

theorem mapValues_insert (d : Dictionary α) (key : String) (value : α) :
    (insert key value d).mapValues change = insert key (change key value) (d.mapValues change) := by
  unfold mapValues
  fun_induction insert key value d with
  | case1 => rfl
  | case2 key' value' rest less => simp only [List.map_cons, insert, if_pos less]
  | case3 value' rest notLess =>
    simp only [List.map_cons, insert, if_neg notLess, if_true]
  | case4 key' value' rest notLess different ih =>
    simp only [List.map_cons, insert, if_neg notLess, if_neg different, ih]

theorem mapValues_ofList (entries : List (String × α)) :
    (ofList entries).mapValues change =
      ofList (entries.map fun entry => (entry.1, change entry.1 entry.2)) := by
  suffices collected : ∀ d : Dictionary α,
      mapValues change (entries.foldl (fun d entry => insert entry.1 entry.2 d) d) =
        (entries.map fun entry => (entry.1, change entry.1 entry.2)).foldl
          (fun d entry => insert entry.1 entry.2 d) (d.mapValues change) from collected []
  intro d
  induction entries generalizing d with
  | nil => rfl
  | cons first rest ih =>
    rw [List.foldl_cons, List.map_cons, List.foldl_cons, ih, mapValues_insert]

theorem get?_filter (keep : String → Bool) (d : Dictionary α) {key : String}
    (kept : keep key = true) : get? (d.filter fun entry => keep entry.1) key = get? d key := by
  induction d with
  | nil => rfl
  | cons first rest ih =>
    by_cases same : first.1 = key
    · rw [List.filter_cons_of_pos (same ▸ kept), get?, get?, if_pos same, if_pos same]
    · rw [get?, if_neg same, ← ih, List.filter_cons]
      split
      · rw [get?, if_neg same]
      · rfl

end Dictionary

/-! ### Underscores -/

namespace Text

/-- No character but the underscore has it for its lower case. -/
theorem eq_of_mem_lowerChar {c : Char} (found : '_' ∈ lowerChar c) : c = '_' := by
  have images : ∀ run ∈ lowerRuns, '_'.toNat < run.image := by decide +kernel
  unfold lowerChar at found
  split at found
  · simp at found
  · split at found
    next n formed =>
      obtain ⟨run, member, form⟩ := List.exists_of_findSome?_eq_some formed
      have high := images run member
      have image : run.image ≤ n := by
        unfold CaseRun.form? at form
        split at form
        · have same := Option.some.inj form
          omega
        · cases form
      have low : '_'.toNat = 95 := rfl
      have number : (Char.ofNat n).toNat = 95 :=
        congrArg Char.toNat (List.mem_singleton.mp found).symm
      by_cases valid : n.isValidChar
      · rw [Char.ofNat, dif_pos valid] at number
        have same : n = 95 := number
        omega
      -- a number that is none of a character stands for the character zero
      · rw [Char.ofNat, dif_neg valid] at number
        cases number
    · exact (List.mem_singleton.mp found).symm

theorem mem_of_mem_lowerAfter {before cs : List Char} (found : '_' ∈ lowerAfter before cs) :
    '_' ∈ cs := by
  induction cs generalizing before with
  | nil => cases found
  | cons c rest ih =>
    rw [lowerAfter] at found
    rcases List.mem_append.mp found with here | later
    · split at here
      · split at here <;> simp at here
      · exact eq_of_mem_lowerChar here ▸ List.mem_cons_self
    · exact List.mem_cons_of_mem c (ih later)

theorem mem_upper {name : String} (found : '_' ∈ name.toList) : '_' ∈ (upper name).toList := by
  have same : upperChar '_' = ['_'] := by decide
  rw [upper, String.toList_ofList]
  exact List.mem_flatMap.mpr ⟨'_', found, same ▸ List.mem_singleton_self '_'⟩

end Text

namespace Config

/-! ### Layers -/

/-- The key of the option that the variable of the password gives. -/
def passwordKey : String := "PASSWORD"

/-- A setting, blank if it is found under the key of the password. -/
def Setting.blanked (key : String) (setting : Setting) : Setting :=
  if key = passwordKey then { setting with value := "" } else setting

theorem Setting.written_blanked (key : String) (setting : Setting) :
    (setting.blanked key).written = setting.written := by
  unfold blanked
  split <;> rfl

namespace Layer

/-- A layer without the text of the password. -/
def withoutPassword (layer : Layer) : Layer := layer.mapValues Setting.blanked

variable (layer : Layer)

theorem get?_withoutPassword {key : String} (other : key ≠ passwordKey) :
    Dictionary.get? layer.withoutPassword key = Dictionary.get? layer key := by
  have same : Setting.blanked key = id := funext fun setting => if_neg other
  rw [withoutPassword, Dictionary.get?_mapValues, same, Option.map_id_fun, id_eq]

theorem below?_withoutPassword (parent : String) :
    layer.withoutPassword.below? parent = layer.below? parent := by
  have same : ∀ key setting, partBelow? parent key (Setting.blanked key setting) =
      partBelow? parent key setting := fun key setting => by
    unfold partBelow?
    rw [Setting.written_blanked]
  unfold below? withoutPassword Dictionary.mapValues
  rw [List.mapM_map]
  simp only [Function.comp_def, same]

end Layer

theorem isSeparable_withoutPassword (layers : List Layer) (depth : Nat) (name : String) :
    isSeparable (layers.map Layer.withoutPassword) depth name = isSeparable layers depth name := by
  induction depth generalizing name with
  | zero => rfl
  | succ depth ih =>
    have below : (layers.map Layer.withoutPassword).mapM (·.below? (Text.upper name)) =
        layers.mapM (·.below? (Text.upper name)) := by
      rw [List.mapM_map]
      simp only [Function.comp_def, Layer.below?_withoutPassword]
    have deeper : isSeparable (layers.map Layer.withoutPassword) depth =
        isSeparable layers depth := funext ih
    rw [isSeparable, isSeparable, below, deeper]

/-! ### Settings -/

/-- Options that agree wherever a setting may be read from: all names of settings have an
underscore. -/
def Options.Alike (options other : Options) : Prop :=
  ∀ key : String, '_' ∈ key.toList → Dictionary.get? other key = Dictionary.get? options key

theorem ofOptions_of_alike {options other : Options} (alike : options.Alike other) :
    ofOptions other = ofOptions options := by
  unfold ofOptions setting
  rw [alike "base_url" (by decide), alike "timeout_secs" (by decide),
    alike "login_route" (by decide), alike "max_retries" (by decide),
    alike "session_file" (by decide)]

theorem ne_passwordKey {name : String} (found : '_' ∈ (Text.lower name).toList) :
    Text.upper name ≠ passwordKey := by
  rw [Text.lower, String.toList_ofList] at found
  intro same
  have kept := Text.mem_upper (Text.mem_of_mem_lowerAfter found)
  rw [same] at kept
  revert kept
  decide

theorem lookup_map_congr {α : Type} {names : List String} {key : String} {rename : String → String}
    {value other : String → α} (same : ∀ name, rename name = key → other name = value name) :
    (names.map fun name => (rename name, other name)).lookup key =
      (names.map fun name => (rename name, value name)).lookup key := by
  induction names with
  | nil => rfl
  | cons name rest ih =>
    simp only [List.map_cons, List.lookup_cons, ih]
    by_cases here : key = rename name
    · rw [same name here.symm]
    · simp only [beq_false_of_ne here]

theorem flatten_withoutPassword (layers : List Layer) :
    (layers.map Layer.withoutPassword).flatten =
      layers.flatten.map fun entry => (entry.1, Setting.blanked entry.1 entry.2) :=
  List.map_flatten.symm

/-- What the settings are read from does not depend on the password among the options. -/
theorem merge_withoutPassword (layers : List Layer) :
    (merge (layers.map Layer.withoutPassword) >>= ofOptions) = (merge layers >>= ofOptions) := by
  unfold merge
  -- which names there are, and how deep sections go, does not depend on any text
  simp only [flatten_withoutPassword, List.map_map, List.foldr_map, Function.comp_def,
    Setting.written_blanked]
  have separable := isSeparable_withoutPassword layers
  generalize (layers.flatten.map fun entry =>
    Layer.firstPart entry.2.written.toList).eraseDups = names
  generalize layers.flatten.foldr (fun entry n => max entry.1.length n) 0 = depth
  rw [funext (separable (depth + 1))]
  split
  · refine ofOptions_of_alike fun key underscore => ?_
    simp only [Dictionary.get?_ofList, ← List.map_reverse]
    refine lookup_map_congr fun name same => ?_
    -- a name that a setting is read from is never looked up under the key of the password
    have other : Text.upper name ≠ passwordKey := ne_passwordKey (same ▸ underscore)
    simp only [List.findSome?_map, Function.comp_def, Layer.get?_withoutPassword _ other]
  · rfl

/-! ### The environment -/

/-- The variable that gives the password of a login. -/
def passwordVariable : String := "EDUDATA_PASSWORD"

/-- The variables that a run reads besides those of options. -/
def plainVariables : List String := ["HOME", "XDG_DATA_HOME", "RUST_LOG", "CLICOLOR_FORCE"]

/-- Whether a run reads the variable of this name. -/
def isRead (name : String) : Bool :=
  variablePrefix.isPrefixOf (name.toList.map Char.toLower) || plainVariables.contains name

/-- The text of a variable, blank if it is the password. -/
def blankPassword (name value : String) : String :=
  if name = passwordVariable then "" else value

/-- The variables that a run reads, with no text for the password. -/
def Environment.withoutPassword (environment : Environment) : Environment :=
  Dictionary.mapValues blankPassword (environment.filter fun entry => isRead entry.1)

theorem get?_withoutPassword (environment : Environment) {name : String}
    (plain : name ∈ plainVariables) :
    Dictionary.get? environment.withoutPassword name = Dictionary.get? environment name := by
  have other : name ≠ passwordVariable := fun same => by
    rw [same] at plain
    revert plain
    decide
  have kept : isRead name = true :=
    Bool.or_eq_true_iff.mpr (Or.inr (List.contains_iff_mem.mpr plain))
  have same : blankPassword name = id := funext fun value => if_neg other
  rw [Environment.withoutPassword, Dictionary.get?_mapValues, Dictionary.get?_filter _ _ kept, same,
    Option.map_id_fun, id_eq]

theorem ofEnvironment_withoutPassword (environment : Environment) :
    (Layer.ofEnvironment environment.withoutPassword).withoutPassword =
      (Layer.ofEnvironment environment).withoutPassword := by
  unfold Layer.ofEnvironment Layer.ofOptions Layer.withoutPassword
  rw [Dictionary.mapValues_ofList, Dictionary.mapValues_ofList]
  congr 1
  unfold Environment.withoutPassword Dictionary.mapValues
  rw [List.filterMap_map, List.filterMap_filter, List.map_map, List.map_map, List.map_filterMap,
    List.map_filterMap]
  congr 1
  -- one variable at a time: the password is blank in the layer, whether its variable is or not
  funext ⟨name, value⟩
  unfold variableOption?
  by_cases option : variablePrefix.isPrefixOf (name.toList.map Char.toLower) = true
  · have read : isRead name = true := Bool.or_eq_true_iff.mpr (Or.inl option)
    simp only [Function.comp_apply, read, option, if_true, Option.map_some]
    by_cases password : name = passwordVariable
    · subst password
      rfl
    · rw [blankPassword, if_neg password]
  · simp only [Function.comp_apply, option, Bool.false_eq_true, if_false, ite_self]

/-- Two runs that read the same variables, but for the text of the password, have the same
settings. -/
theorem load_of_withoutPassword {environment other : Environment}
    (same : other.withoutPassword = environment.withoutPassword) (disk : Disk)
    (file : Option String) : load disk file other = load disk file environment := by
  have layer : (Layer.ofEnvironment other).withoutPassword =
      (Layer.ofEnvironment environment).withoutPassword := by
    rw [← ofEnvironment_withoutPassword, same, ofEnvironment_withoutPassword]
  unfold load layers
  cases readFile disk (file.getD defaultFile) with
  | error e => rfl
  | ok options =>
    have merged := fun layer => merge_withoutPassword [Layer.ofFile options, layer]
    simp only [List.map_cons, List.map_nil] at merged
    show (merge _ >>= ofOptions) = (merge _ >>= ofOptions)
    rw [← merged, layer, merged]

end Config

end TeacherRegistry
