import TeacherRegistry.Proofs.GivenFlags
import TeacherRegistry.Proofs.ListedIds
import TeacherRegistry.Proofs.SettingTexts

/-!
# The command line over the other layers

Three settings may be given on the command line. Their texts are put over settings that have been
read from the layers below, and not under the names of options from which the settings would then be
read. Both come to the same where the layers below can be read without them, and where the texts
have no blanks at their ends.
-/

namespace TeacherRegistry

namespace Text

/-- There are no blanks in a text that is read as a number. -/
theorem trim_of_natural? {bound n : Nat} {s : String} (read : natural? bound s = some n) :
    trim s = s := by
  have digits : ∀ {cs : List Char}, digits? cs ≠ none → ∀ c ∈ cs, isBlankChar c = false := by
    intro cs read c among
    unfold digits? at read
    split at read
    next valid => exact isBlankChar_of_isDigit (List.all_eq_true.mp valid.2 c among)
    · exact absurd rfl read
  obtain ⟨found, _⟩ := Option.filter_eq_some_iff.mp read
  refine trim_of_visible fun c among => ?_
  split at found
  next rest signed =>
    rw [signed] at among
    rcases List.mem_cons.mp among with rfl | behind
    · decide
    · exact digits (by rw [found]; exact Option.some_ne_none n) c behind
  · exact digits (by rw [found]; exact Option.some_ne_none n) c among

theorem isBlank_of_trim {s : String} (blank : isBlank s = true) : trim s = "" := by
  rw [trim, trimBoth, List.dropWhile_eq_nil_iff.mpr (List.all_eq_true.mp blank)]
  rfl

end Text

namespace Console

open Config (Options Spells)

/-- The texts of the options of the command line that settings are given by. -/
structure Flags where
  baseUrl : Option String
  timeout : Option String
  sessionFile : Option String

namespace Flags

/-- The text for a setting. -/
def text? (flags : Flags) (name : String) : Option String :=
  match name with
  | "base_url" => flags.baseUrl
  | "timeout_secs" => flags.timeout
  | "session_file" => flags.sessionFile
  | _ => none

/-- Options with the texts of flags in place of those that they had. -/
def laidOver (flags : Flags) (options : Options) : Options :=
  ["base_url", "timeout_secs", "session_file"].foldl (fun options name =>
    (flags.text? name).elim options (options.insert name ·)) options

/-- The flags of arguments that were accepted: a timeout is a number, a session file is named. -/
structure Of (flags : Flags) (arguments : Arguments) : Prop where
  baseUrl : arguments.baseUrl = flags.baseUrl
  timeout : arguments.timeoutSeconds = flags.timeout.bind (Text.natural? Config.timeoutBound)
  number : ∀ text ∈ flags.timeout, (Text.natural? Config.timeoutBound text).isSome = true
  sessionFile : arguments.sessionFile = flags.sessionFile
  named : ∀ text ∈ flags.sessionFile, text ≠ ""

/-- Whether no text that is taken as it is has blanks at its ends. -/
structure Trimmed (flags : Flags) : Prop where
  baseUrl : ∀ text ∈ flags.baseUrl, Text.trim text = text
  sessionFile : ∀ text ∈ flags.sessionFile, Text.trim text = text

theorem get?_laidOver (flags : Flags) (options : Options) {name : String}
    (among : name ∈ Config.names) :
    (flags.laidOver options).get? name = (flags.text? name).or (options.get? name) := by
  have inserted : ∀ (text : Option String) (options : Options) (key : String),
      (text.elim options (options.insert key ·)).get? name =
        if key = name then text.or (options.get? name) else options.get? name := by
    intro text options key
    cases text with
    | none => simp
    | some text => rw [Option.elim_some, Dictionary.get?_insert, Option.some_or]
  simp only [laidOver, List.foldl_cons, List.foldl_nil, inserted]
  simp only [Config.names, List.mem_cons, List.not_mem_nil, or_false] at among
  rcases among with rfl | rfl | rfl | rfl | rfl <;> simp [text?]

theorem override_eq_ok_iff {arguments : Arguments} {lower config : Config} :
    arguments.override lower = .ok config ↔ arguments.timeoutSeconds ≠ some 0 ∧
      config = { lower with
        baseUrl := arguments.baseUrl.getD lower.baseUrl
        timeoutMillis := (arguments.timeoutSeconds.map (· * 1000)).getD lower.timeoutMillis
        sessionFile := arguments.sessionFile.or lower.sessionFile } := by
  unfold Arguments.override
  split
  next zero => simp [zero]
  next other => simp [other, eq_comm]

variable {flags : Flags} {arguments : Arguments} (given : flags.Of arguments)
include given

/-- A timeout on the command line is read as it would be from an option. -/
theorem seconds_laidOver {below : Option String} {lower millis : Nat}
    (read : below.elim (some Config.default.timeoutMillis)
      (fun raw => (Config.seconds? raw).map (· * 1000)) = some lower) :
    (flags.timeout.or below).elim (some Config.default.timeoutMillis)
        (fun raw => (Config.seconds? raw).map (· * 1000)) = some millis ↔
      arguments.timeoutSeconds ≠ some 0 ∧
        millis = (arguments.timeoutSeconds.map (· * 1000)).getD lower := by
  rw [given.timeout]
  cases timeout : flags.timeout with
  | none =>
    rw [Option.none_or, read]
    simp [eq_comm]
  | some text =>
    obtain ⟨n, number⟩ := Option.isSome_iff_exists.mp (given.number text timeout)
    rw [Option.some_or, Option.elim_some, Config.seconds?, Text.trim_of_natural? number, number,
      Option.bind_some, number]
    cases n <;> simp [Option.filter, eq_comm]

theorem path_laidOver (trimmed : flags.Trimmed) (below : Option String) :
    ((flags.sessionFile.or below).bind fun raw =>
        if Text.isBlank raw then none else some (Text.trim raw)) =
      flags.sessionFile.or (below.bind fun raw =>
        if Text.isBlank raw then none else some (Text.trim raw)) := by
  cases path : flags.sessionFile with
  | none => rfl
  | some text =>
    have same := trimmed.sessionFile text path
    have filled : Text.isBlank text = false := by
      refine Bool.eq_false_iff.mpr fun blank => ?_
      exact given.named text path (same.symm.trans (Text.isBlank_of_trim blank))
    simp [filled, same]

omit given in
theorem base_laidOver (trimmed : flags.Trimmed) (below : Option String) (default : String) :
    ((flags.baseUrl.or below).map Text.trim).getD default =
      flags.baseUrl.getD ((below.map Text.trim).getD default) := by
  cases base : flags.baseUrl with
  | none => rfl
  | some text => simp [trimmed.baseUrl text base]

section

variable (flags) (options : Options)

omit given

theorem baseUrl_laidOver :
    (flags.laidOver options).get? "base_url" = flags.baseUrl.or (options.get? "base_url") :=
  get?_laidOver flags options (by decide)

theorem timeout_laidOver :
    (flags.laidOver options).get? "timeout_secs" = flags.timeout.or (options.get? "timeout_secs") :=
  get?_laidOver flags options (by decide)

theorem sessionFile_laidOver : (flags.laidOver options).get? "session_file" =
    flags.sessionFile.or (options.get? "session_file") :=
  get?_laidOver flags options (by decide)

end

variable {options : Options} {lower config : Config}

/-- With texts without blanks at their ends, what options spell under flags is what the flags make
of what they spell. -/
theorem spells_laidOver_iff (below : Spells options.get? lower) (trimmed : flags.Trimmed) :
    Spells (flags.laidOver options).get? config ↔ arguments.override lower = .ok config ∧
      ∃ url, Url.parse config.baseUrl = .ok url ∧ url.isHttp = true := by
  have route : (flags.laidOver options).get? "login_route" = options.get? "login_route" :=
    get?_laidOver flags options (by decide)
  have retries : (flags.laidOver options).get? "max_retries" = options.get? "max_retries" :=
    get?_laidOver flags options (by decide)
  rw [override_eq_ok_iff]
  constructor
  · intro spells
    have timely := spells.timeout
    rw [timeout_laidOver] at timely
    obtain ⟨positive, timeout⟩ := (seconds_laidOver given below.timeout).mp timely
    have base : config.baseUrl = arguments.baseUrl.getD lower.baseUrl := by
      rw [spells.baseUrl, baseUrl_laidOver, base_laidOver trimmed, ← below.baseUrl, given.baseUrl]
    have loginRoute : config.loginRoute = lower.loginRoute := by
      rw [spells.loginRoute, route, ← below.loginRoute]
    have maxRetries : config.maxRetries = lower.maxRetries := by
      rw [← Option.some_inj, ← spells.maxRetries, retries, below.maxRetries]
    have path : config.sessionFile = arguments.sessionFile.or lower.sessionFile := by
      rw [spells.sessionFile, sessionFile_laidOver, path_laidOver given trimmed,
        ← below.sessionFile, given.sessionFile]
    refine ⟨⟨positive, ?_⟩, spells.address⟩
    rw [← base, ← timeout, ← loginRoute, ← maxRetries, ← path]
  · rintro ⟨⟨positive, rfl⟩, address⟩
    refine ⟨?_, address, ?_, ?_, ?_, ?_⟩
    · rw [baseUrl_laidOver, base_laidOver trimmed, ← below.baseUrl, given.baseUrl]
    · rw [timeout_laidOver]
      exact (seconds_laidOver given below.timeout).mpr ⟨positive, rfl⟩
    · rw [route]
      exact below.loginRoute
    · rw [retries]
      exact below.maxRetries
    · rw [sessionFile_laidOver, path_laidOver given trimmed, ← below.sessionFile, given.sessionFile]

/-- What flags make of settings is what options spell under them only if their texts have no blanks
at their ends. -/
theorem trimmed_of_spells (spells : Spells (flags.laidOver options).get? config)
    (made : arguments.override lower = .ok config) : flags.Trimmed := by
  obtain ⟨_, rfl⟩ := override_eq_ok_iff.mp made
  have base := spells.baseUrl
  have path := spells.sessionFile
  rw [baseUrl_laidOver] at base
  rw [sessionFile_laidOver] at path
  simp only [given.baseUrl, given.sessionFile] at base path
  constructor
  · intro text here
    rw [Option.mem_def] at here
    rw [here] at base
    exact base.symm
  · intro text here
    rw [Option.mem_def] at here
    rw [here] at path
    simp only [Option.some_or, Option.bind_some] at path
    split at path
    · cases path
    · exact (Option.some.inj path).symm

end Flags

variable {flags : Flags} {arguments : Arguments} {disk : Disk} {environment : Config.Environment}
  {options : Options}

theorem settings_eq_ok_iff (read : Config.layers disk arguments.config environment = .ok options)
    {config : Config} : settings arguments disk environment = .ok config ↔
      ∃ lower, Config.ofOptions options = .ok lower ∧ arguments.override lower = .ok config ∧
        ∃ url, Url.parse config.baseUrl = .ok url ∧ url.isHttp = true := by
  have loaded : Config.load disk arguments.config environment = Config.ofOptions options := by
    rw [Config.load, read]
    rfl
  unfold settings
  rw [loaded]
  cases Config.ofOptions options with
  | error e =>
    constructor
    · intro impossible
      cases impossible
    · rintro ⟨_, impossible, _⟩
      cases impossible
  | ok lower =>
    simp only [Except.mapError, bind, Except.bind, Except.ok.injEq, exists_eq_left',
      ← Config.validate_iff]
    cases arguments.override lower with
    | error problem => simp
    | ok made =>
      dsimp only
      constructor
      · intro settled
        cases checked : made.validate with
        | error e =>
          rw [checked] at settled
          cases settled
        | ok =>
          rw [checked] at settled
          cases settled
          exact ⟨rfl, checked⟩
      · rintro ⟨same, valid⟩
        cases same
        rw [valid]
        rfl

/-- What settings a run has under the flags of its command line, against those that are spelled when
the texts of the flags are options of the layers below. Where these options spell settings, the run
has them exactly if the layers below can be read by themselves and the flags have no blanks at their
ends; where the run has settings, the options spell them exactly if there are no such blanks. -/
theorem settings_layered {words : List String} {environment known : Config.Environment}
    {arguments : Arguments} (accepted : Arguments.ofWords words known = .ok arguments)
    (disk : Disk) :
    (∃ flags : Flags, flags.Of arguments) ∧ ∀ flags : Flags, flags.Of arguments →
      (∀ e, Config.layers disk arguments.config environment = .error e →
        settings arguments disk environment = .error (.loading e)) ∧
      ∀ options, Config.layers disk arguments.config environment = .ok options → ∀ config,
        (Config.ofOptions (flags.laidOver options) = .ok config →
          (settings arguments disk environment = .ok config ↔
            (∃ lower, Config.ofOptions options = .ok lower) ∧ flags.Trimmed)) ∧
        (settings arguments disk environment = .ok config →
          (Config.ofOptions (flags.laidOver options) = .ok config ↔ flags.Trimmed)) := by
  refine ⟨?_, fun flags given => ⟨fun e fails => ?_, fun options read config => ⟨?_, ?_⟩⟩⟩
  · obtain ⟨timeout, read, number, named⟩ := texts_of_ofWords accepted
    exact ⟨⟨arguments.baseUrl, timeout, arguments.sessionFile⟩, rfl, read, number, rfl, named⟩
  · unfold settings Config.load
    rw [fails]
    rfl
  · intro spelled
    have spells := Config.ofOptions_eq_ok_iff.mp spelled
    rw [settings_eq_ok_iff read]
    constructor
    · rintro ⟨lower, below, made, _⟩
      exact ⟨⟨lower, below⟩, Flags.trimmed_of_spells given spells made⟩
    · rintro ⟨⟨lower, below⟩, trimmed⟩
      exact ⟨lower, below,
        (Flags.spells_laidOver_iff given (Config.ofOptions_eq_ok_iff.mp below) trimmed).mp spells⟩
  · rw [settings_eq_ok_iff read, Config.ofOptions_eq_ok_iff]
    rintro ⟨lower, below, made, address⟩
    constructor
    · intro spells
      exact Flags.trimmed_of_spells given spells made
    · intro trimmed
      exact (Flags.spells_laidOver_iff given (Config.ofOptions_eq_ok_iff.mp below) trimmed).mpr
        ⟨made, address⟩

/-- The words of a logout with a timeout. -/
def timedWords : List String := ["--timeout", "5", "logout"]

/-- What is made of them. -/
def timedArguments : Arguments :=
  { config := none, baseUrl := none, timeoutSeconds := some 5, sessionFile := none, token := none,
    plain := false, jsonLogs := false, command := .logout }

theorem ofWords_timedWords : Arguments.ofWords timedWords [] = .ok timedArguments := by
  decide +kernel

theorem flags_timedArguments : Flags.Of ⟨none, some "5", none⟩ timedArguments := by
  refine ⟨rfl, by decide +kernel, fun text given => ?_, rfl, fun text impossible => ?_⟩
  · cases given
    decide +kernel
  · cases impossible

/-- A timeout of the environment gives way to that of the command line. -/
theorem settings_layered_timed :
    settings timedArguments ⟨[], []⟩ [("EDUDATA_TIMEOUT_SECS", "7")] =
      .ok { Config.default with timeoutMillis := 5000 } := by
  obtain ⟨_, law⟩ := @settings_layered _ [("EDUDATA_TIMEOUT_SECS", "7")] _ _ ofWords_timedWords
    ⟨[], []⟩
  have read : Config.layers ⟨[], []⟩ none [("EDUDATA_TIMEOUT_SECS", "7")] =
      .ok [("timeout_secs", "7")] := by decide +kernel
  have spelled : Config.ofOptions
      (Flags.laidOver ⟨none, some "5", none⟩ [("timeout_secs", "7")]) =
        .ok { Config.default with timeoutMillis := 5000 } := by decide +kernel
  have below : Config.ofOptions [("timeout_secs", "7")] =
      .ok { Config.default with timeoutMillis := 7000 } := by decide +kernel
  exact (((law _ flags_timedArguments).2 _ read _).1 spelled).mpr ⟨⟨_, below⟩, nofun, nofun⟩

/-- A timeout of the environment that cannot be read is a failure under any timeout of the command
line. -/
theorem unread_timeout_not_overridden :
    ¬ ∀ (words : List String) (known environment : Config.Environment) (arguments : Arguments)
      (disk : Disk), Arguments.ofWords words known = .ok arguments → ∀ flags : Flags,
        flags.Of arguments → ∀ options,
          Config.layers disk arguments.config environment = .ok options → ∀ config,
            settings arguments disk environment = .ok config ↔
              Config.ofOptions (flags.laidOver options) = .ok config := by
  intro layered
  have read : Config.layers ⟨[], []⟩ none [("EDUDATA_TIMEOUT_SECS", "ten")] =
      .ok [("timeout_secs", "ten")] := by decide +kernel
  have spelled : Config.ofOptions
      (Flags.laidOver ⟨none, some "5", none⟩ [("timeout_secs", "ten")]) =
        .ok { Config.default with timeoutMillis := 5000 } := by decide +kernel
  have settled := (layered timedWords [] _ _ _ ofWords_timedWords _ flags_timedArguments _ read
    _).mpr spelled
  have fails : (settings timedArguments ⟨[], []⟩ [("EDUDATA_TIMEOUT_SECS", "ten")]).toOption =
      none := by decide +kernel
  rw [settled] at fails
  cases fails

end Console

end TeacherRegistry
