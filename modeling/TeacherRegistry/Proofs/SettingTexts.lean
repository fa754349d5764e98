import TeacherRegistry.Config.Basic

/-!
# What the texts of settings mean

Every setting is read from the text under its name, and from nothing else. If all of them can be
read, the settings are what they spell. If not, the first that cannot is reported: the timeout before
the retries, and both before the address.
-/

namespace TeacherRegistry.Config

/-- The seconds that a text gives, at least one. -/
def seconds? (raw : String) : Option Nat :=
  (Text.natural? timeoutBound (Text.trim raw)).filter (0 < ·)

/-- The number of retries that a text gives. -/
def retries? (raw : String) : Option Nat :=
  Text.natural? retriesBound (Text.trim raw)

/-- The settings that texts spell; one without a text is the default. -/
structure Spells (text? : String → Option String) (config : Config) : Prop where
  baseUrl : config.baseUrl = ((text? "base_url").map Text.trim).getD default.baseUrl
  address : ∃ url, Url.parse config.baseUrl = .ok url ∧ url.isHttp = true
  timeout : (text? "timeout_secs").elim (some default.timeoutMillis)
    (fun raw => (seconds? raw).map (· * 1000)) = some config.timeoutMillis
  loginRoute : config.loginRoute = ((text? "login_route").map Text.trim).getD default.loginRoute
  maxRetries : (text? "max_retries").elim (some default.maxRetries) retries? =
    some config.maxRetries
  sessionFile : config.sessionFile = (text? "session_file").bind fun raw =>
    if Text.isBlank raw then none else some (Text.trim raw)

/-- The first of the texts that cannot be read, and how it is reported. -/
inductive Rejects (text? : String → Option String) : Error → Prop
  | timeout {raw : String} (given : text? "timeout_secs" = some raw) (bad : seconds? raw = none) :
    Rejects text? (.invalidValue "timeout_secs" raw)
  | maxRetries {raw : String} (timely : ∀ raw ∈ text? "timeout_secs", seconds? raw ≠ none)
    (given : text? "max_retries" = some raw) (bad : retries? raw = none) :
    Rejects text? (.invalidValue "max_retries" raw)
  | address {raw reason : String} (timely : ∀ raw ∈ text? "timeout_secs", seconds? raw ≠ none)
    (counted : ∀ raw ∈ text? "max_retries", retries? raw ≠ none)
    (given : text? "base_url" = some raw)
    (bad : { default with baseUrl := Text.trim raw }.validate =
      .error (.invalidBaseUrl (Text.trim raw) reason)) :
    Rejects text? (.invalidBaseUrl (Text.trim raw) reason)

/-- The names of the settings. -/
def names : List String :=
  ["base_url", "timeout_secs", "login_route", "max_retries", "session_file"]

section

variable {text? other? : String → Option String} (same : ∀ name ∈ names, text? name = other? name)
include same

theorem Spells.congr {config : Config} (spells : Spells text? config) : Spells other? config where
  baseUrl := same "base_url" (by decide) ▸ spells.baseUrl
  address := spells.address
  timeout := same "timeout_secs" (by decide) ▸ spells.timeout
  loginRoute := same "login_route" (by decide) ▸ spells.loginRoute
  maxRetries := same "max_retries" (by decide) ▸ spells.maxRetries
  sessionFile := same "session_file" (by decide) ▸ spells.sessionFile

theorem Rejects.congr {e : Error} (rejects : Rejects text? e) : Rejects other? e := by
  have base := same "base_url" (by decide)
  have timeout := same "timeout_secs" (by decide)
  have retries := same "max_retries" (by decide)
  cases rejects with
  | timeout given bad => exact .timeout (timeout ▸ given) bad
  | maxRetries timely given bad => exact .maxRetries (timeout ▸ timely) (retries ▸ given) bad
  | address timely counted given bad =>
    exact .address (timeout ▸ timely) (retries ▸ counted) (base ▸ given) bad

end

theorem setting_total {α : Type} (options : Options) (key : String) (default : α)
    (read : String → α) : setting options key default (fun raw => .ok (read raw)) =
      .ok (((options.get? key).map read).getD default) := by
  unfold setting
  cases options.get? key <;> rfl

/-- The number under a name, reported with its text if there is none in it. -/
theorem setting_number (options : Options) (key : String) (default : Nat)
    (number? : String → Option Nat) :
    setting options key default (fun raw => ((number? raw).map Except.ok).getD
        (.error (.invalidValue key raw))) =
      match (options.get? key).elim (some default) number? with
      | some n => .ok n
      | none => .error (.invalidValue key ((options.get? key).getD "")) := by
  unfold setting
  cases options.get? key with
  | none => rfl
  | some raw => cases read : number? raw <;> simp [read]

theorem readTimeout_eq : readTimeout = fun raw =>
    (((seconds? raw).map (· * 1000)).map Except.ok).getD
      (.error (.invalidValue "timeout_secs" raw)) := by
  funext raw
  unfold readTimeout readNatural seconds?
  cases Text.natural? timeoutBound (Text.trim raw) with
  | none => rfl
  | some n => cases n <;> rfl

theorem readRetries_eq : (readNatural "max_retries" · retriesBound) = fun raw =>
    ((retries? raw).map Except.ok).getD (.error (.invalidValue "max_retries" raw)) := by
  funext raw
  unfold readNatural retries?
  cases Text.natural? retriesBound (Text.trim raw) <;> rfl

theorem validate_default : default.validate = .ok () := by
  have passes : default.validate.isOk = true := by decide +kernel
  cases checked : default.validate with
  | error e =>
    rw [checked] at passes
    cases passes
  | ok => rfl

/-- Only the address is checked, and it is what is reported. -/
theorem validate_eq (config : Config) {base : String} (same : config.baseUrl = base) :
    config.validate = { default with baseUrl := base }.validate := by
  unfold validate
  rw [same]

theorem error_of_validate {config : Config} {e : Error} (fails : config.validate = .error e) :
    ∃ reason, e = .invalidBaseUrl config.baseUrl reason := by
  unfold validate at fails
  split at fails
  · cases fails
    exact ⟨_, rfl⟩
  · split at fails
    · cases fails
    · cases fails
      exact ⟨_, rfl⟩

theorem ofOptions_eq (options : Options) : ofOptions options =
    match (options.get? "timeout_secs").elim (some default.timeoutMillis)
      fun raw => (seconds? raw).map (· * 1000) with
    | none => .error (.invalidValue "timeout_secs" ((options.get? "timeout_secs").getD ""))
    | some timeoutMillis =>
      match (options.get? "max_retries").elim (some default.maxRetries) retries? with
      | none => .error (.invalidValue "max_retries" ((options.get? "max_retries").getD ""))
      | some maxRetries =>
        let baseUrl := ((options.get? "base_url").map Text.trim).getD default.baseUrl
        { default with baseUrl }.validate.map fun _ =>
          { baseUrl
            timeoutMillis
            loginRoute := ((options.get? "login_route").map Text.trim).getD default.loginRoute
            maxRetries
            sessionFile := (options.get? "session_file").bind fun raw =>
              if Text.isBlank raw then none else some (Text.trim raw) } := by
  unfold ofOptions
  rw [readTimeout_eq, readRetries_eq]
  simp only [setting_total, setting_number]
  cases (options.get? "timeout_secs").elim (some default.timeoutMillis)
      fun raw => (seconds? raw).map (· * 1000) with
  | none => rfl
  | some timeoutMillis =>
    cases (options.get? "max_retries").elim (some default.maxRetries) retries? with
    | none => rfl
    | some maxRetries =>
      have path : ((options.get? "session_file").map fun raw =>
            if Text.isBlank raw then none else some (Text.trim raw)).getD default.sessionFile =
          (options.get? "session_file").bind fun raw =>
            if Text.isBlank raw then none else some (Text.trim raw) := by
        cases options.get? "session_file" <;> rfl
      rw [path]
      dsimp only [bind, Except.bind]
      rw [validate_eq _ rfl]
      cases Config.validate _ <;> rfl

/-- Options are read to the settings that they spell. -/
theorem ofOptions_eq_ok_iff {options : Options} {config : Config} :
    ofOptions options = .ok config ↔ Spells options.get? config := by
  rw [ofOptions_eq]
  constructor
  · intro read
    split at read
    · cases read
    next timeoutMillis timely =>
      split at read
      · cases read
      next maxRetries counted =>
        simp only at read
        generalize checked : Config.validate _ = valid at read
        cases valid with
        | error e => cases read
        | ok =>
          cases read
          exact ⟨rfl, (validate_iff _).mp checked, timely, rfl, counted, rfl⟩
  · intro spells
    rw [spells.timeout, spells.maxRetries]
    simp only [← spells.baseUrl, ← spells.loginRoute, ← spells.sessionFile]
    rw [← validate_eq config rfl, config.validate_iff.mpr spells.address]
    rfl

section

variable {α : Type} {given : Option String} {preset : α} {read : String → Option α}

theorem elim_eq_none_iff :
    given.elim (some preset) read = none ↔ ∃ raw, given = some raw ∧ read raw = none := by
  cases given <;> simp

theorem exists_elim_iff :
    (∃ value, given.elim (some preset) read = some value) ↔ ∀ raw ∈ given, read raw ≠ none := by
  cases given <;> simp [Option.ne_none_iff_exists']

theorem exists_timeout_iff :
    (∃ millis, given.elim (some default.timeoutMillis) (fun raw => (seconds? raw).map (· * 1000)) =
      some millis) ↔ ∀ raw ∈ given, seconds? raw ≠ none := by
  simp only [exists_elim_iff, ne_eq, Option.map_eq_none_iff]

end

section

variable {options : Options} {e : Error}

theorem rejects_of_ofOptions (read : ofOptions options = .error e) : Rejects options.get? e := by
  rw [ofOptions_eq] at read
  split at read
  next late =>
    obtain ⟨raw, given, bad⟩ := elim_eq_none_iff.mp late
    rw [given] at read
    cases read
    exact .timeout given (Option.map_eq_none_iff.mp bad)
  next timely =>
    split at read
    next uncounted =>
      obtain ⟨raw, given, bad⟩ := elim_eq_none_iff.mp uncounted
      rw [given] at read
      cases read
      exact .maxRetries (exists_timeout_iff.mp ⟨_, timely⟩) given bad
    next counted =>
      simp only at read
      cases given : options.get? "base_url" with
      | none =>
        -- the default passes, so there is a text that does not
        rw [given, Option.map_none, Option.getD_none, validate_default] at read
        cases read
      | some raw =>
        rw [given, Option.map_some, Option.getD_some] at read
        cases checked : Config.validate { default with baseUrl := Text.trim raw } with
        | ok =>
          rw [checked] at read
          cases read
        | error fault =>
          rw [checked] at read
          cases read
          obtain ⟨reason, rfl⟩ := error_of_validate checked
          exact .address (exists_timeout_iff.mp ⟨_, timely⟩) (exists_elim_iff.mp ⟨_, counted⟩) given
            checked

theorem ofOptions_of_rejects (rejects : Rejects options.get? e) : ofOptions options = .error e := by
  rw [ofOptions_eq]
  cases rejects with
  | timeout given bad =>
    rw [given, Option.elim_some, bad]
    rfl
  | maxRetries timely given bad =>
    obtain ⟨_, timely⟩ := exists_timeout_iff.mpr timely
    rw [timely, given, Option.elim_some, bad]
    rfl
  | address timely counted given bad =>
    obtain ⟨_, timely⟩ := exists_timeout_iff.mpr timely
    obtain ⟨_, counted⟩ := exists_elim_iff.mpr counted
    rw [timely, counted, given]
    simp only [Option.map_some, Option.getD_some, bad]
    rfl

/-- Options that cannot be read are rejected for the first that cannot. -/
theorem ofOptions_eq_error_iff : ofOptions options = .error e ↔ Rejects options.get? e :=
  ⟨rejects_of_ofOptions, ofOptions_of_rejects⟩

end

end TeacherRegistry.Config
