import TeacherRegistry.Console.Arguments

/-!
# Options that were accepted

Whatever the order of its words, an accepted command line gives its options texts that they can
take: each comes from an option that was looked up, and fits what that option takes.
-/

namespace TeacherRegistry.Console

/-- Whether an option can take a text. -/
def Operand.fits : Operand → String → Bool
  | .nothing, _ | .text, _ => true
  | .path, value => value != ""
  | .number, value => (Text.natural? Config.timeoutBound value).isSome

namespace Given

/-- Options that were given are among those that are read, with texts that they can take. -/
def Fit (switches : List Switch) (given : Given) : Prop :=
  ∀ entry ∈ given, ∃ switch ∈ switches, switch.long = entry.1 ∧ switch.operand.fits entry.2 = true

variable {switches : List Switch}

theorem add_eq (given : Given) (switch : Switch) (value : String) : given.add switch value =
    if switch.operand.fits value && (given.lookup switch.long).isNone then
      .ok (given ++ [(switch.long, value)])
    else .error .usage := by
  unfold add Operand.fits
  cases switch.operand <;> rfl

theorem fit_add {given after : Given} (fit : given.Fit switches) {switch : Switch}
    (known : switch ∈ switches) {value : String} (added : given.add switch value = .ok after) :
    after.Fit switches := by
  rw [add_eq] at added
  split at added
  next valid =>
    cases added
    intro entry among
    rcases List.mem_append.mp among with before | last
    · exact fit entry before
    · obtain rfl := List.mem_singleton.mp last
      exact ⟨switch, known, rfl, (Bool.and_eq_true_iff.mp valid).1⟩
  · cases added

end Given

/-- What has been read so far, with the option that waits for its text. -/
def Reading.Fit (switches : List Switch) (reading : Reading) : Prop :=
  reading.1.Fit switches ∧ ∀ switch ∈ reading.2, switch ∈ switches

section

variable {switches : List Switch} {given : Given} (fit : given.Fit switches) {reading : Reading}
include fit

theorem fit_added {switch : Switch} (known : switch ∈ switches) {value : String}
    (added : ((given.add switch value).map fun given => (given, none)) = .ok reading) :
    reading.Fit switches := by
  cases more : given.add switch value with
  | error refusal =>
    rw [more] at added
    cases added
  | ok after =>
    rw [more] at added
    cases added
    exact ⟨Given.fit_add fit known more, nofun⟩

theorem fit_readLong {atRoot : Bool} {name : String} {attached : Option String}
    (read : readLong switches atRoot name attached given = .ok reading) :
    reading.Fit switches := by
  unfold readLong at read
  split at read
  next switch found =>
    have known := List.mem_of_find?_eq_some found
    split at read
    · exact fit_added fit known read
    · cases read
      exact ⟨fit, fun other same => Option.some.inj same ▸ known⟩
  next switch value found =>
    split at read
    · cases read
    · exact fit_added fit (List.mem_of_find?_eq_some found) read
  · repeat' split at read
    all_goals cases read
  · cases read

theorem fit_readShort {atRoot : Bool} {letters : List Char}
    (read : readShort switches atRoot letters given = .ok reading) : reading.Fit switches := by
  induction letters generalizing given with
  | nil =>
    cases read
    exact ⟨fit, nofun⟩
  | cons letter letters ih =>
    unfold readShort at read
    split at read
    next switch found =>
      have known := List.mem_of_find?_eq_some found
      split at read
      · split at read
        next more => exact ih (Given.fit_add fit known more) read
        · cases read
      · simp only at read
        split at read
        · cases read
          exact ⟨fit, fun other same => Option.some.inj same ▸ known⟩
        · exact fit_added fit known read
    · repeat' split at read
      all_goals cases read

theorem fit_readDashed {atRoot : Bool} {word : String}
    (read : readDashed switches atRoot word given = .ok reading) : reading.Fit switches := by
  unfold readDashed at read
  split at read
  · exact fit_readLong fit read
  · exact fit_readShort fit read

theorem fit_readLevel {atRoot : Bool} {pending : Option Switch}
    (waiting : ∀ switch ∈ pending, switch ∈ switches) {words rest : List String} {after : Given}
    (read : readLevel switches atRoot pending words given = .ok (after, rest)) :
    after.Fit switches := by
  induction words generalizing given pending with
  | nil =>
    cases pending with
    | some switch => cases read
    | none =>
      cases read
      exact fit
  | cons word words ih =>
    cases pending with
    | some switch =>
      rw [readLevel] at read
      split at read
      · cases read
      · split at read
        next more =>
          exact ih (Given.fit_add fit (waiting switch rfl) more)
            (fun _ impossible => by cases impossible) read
        · cases read
    | none =>
      rw [readLevel] at read
      split at read
      · split at read
        · cases read
          exact fit
        · cases read
      · split at read
        · split at read
          next more =>
            have dashed := fit_readDashed fit more
            exact ih dashed.1 dashed.2 read
          · cases read
        · cases read
          exact fit

end

/-- A timeout is a number and a session file is a path, whatever command they are given to. -/
structure Given.Fits (given : Given) : Prop where
  timeout : ∀ text ∈ given.lookup "timeout", (Text.natural? Config.timeoutBound text).isSome = true
  sessionFile : ∀ text ∈ given.lookup "session-file", text ≠ ""

theorem Given.Fit.fits {switches : List Switch} {given : Given} (fit : given.Fit switches)
    (operands : ∀ switch ∈ switches, (switch.long = "timeout" → switch.operand = .number) ∧
      (switch.long = "session-file" → switch.operand = .path)) : given.Fits := by
  have among : ∀ {name text : String}, text ∈ given.lookup name →
      ∃ switch ∈ switches, switch.long = name ∧ switch.operand.fits text = true := by
    intro name text found
    obtain ⟨before, after, same, _⟩ := List.lookup_eq_some_iff.mp found
    exact fit (name, text) (same ▸ List.mem_append_right _ List.mem_cons_self)
  constructor
  · intro text found
    obtain ⟨switch, known, long, fits⟩ := among found
    rw [(operands switch known).1 long] at fits
    exact fits
  · intro text found
    obtain ⟨switch, known, long, fits⟩ := among found
    rw [(operands switch known).2 long] at fits
    exact bne_iff_ne.mp fits

theorem operands_of_command {name : String} {switches : List Switch}
    (found : commands.lookup name = some switches) :
    ∀ switch ∈ switches ++ globalSwitches, (switch.long = "timeout" → switch.operand = .number) ∧
      (switch.long = "session-file" → switch.operand = .path) := by
  have each : ∀ command ∈ commands, ∀ switch ∈ command.2 ++ globalSwitches,
      (switch.long = "timeout" → switch.operand = .number) ∧
        (switch.long = "session-file" → switch.operand = .path) := by decide
  obtain ⟨before, after, same, _⟩ := List.lookup_eq_some_iff.mp found
  exact each (name, switches) (same ▸ List.mem_append_right _ List.mem_cons_self)

theorem texts_of_assemble {name : String} {before after : Given} {environment : Config.Environment}
    {arguments : Arguments} (assembled : assemble name before after environment = .ok arguments) :
    arguments.timeoutSeconds = ((after.lookup "timeout").or (before.lookup "timeout")).bind
        (Text.natural? Config.timeoutBound) ∧
      arguments.sessionFile = (after.lookup "session-file").or (before.lookup "session-file") := by
  unfold assemble at assembled
  cases made : command name after environment with
  | error refusal =>
    rw [made] at assembled
    cases assembled
  | ok command =>
    rw [made] at assembled
    cases assembled
    exact ⟨rfl, rfl⟩

/-- An accepted command line is read on two levels, before and after the name of its command. -/
theorem levels_of_ofWords {words : List String} {environment : Config.Environment}
    {arguments : Arguments} (accepted : Arguments.ofWords words environment = .ok arguments) :
    ∃ name switches before after rest surplus,
      readLevel globalSwitches true none words [] = .ok (before, name :: rest) ∧
      commands.lookup name = some switches ∧
      readLevel (switches ++ globalSwitches) false none rest [] = .ok (after, surplus) ∧
      assemble name before after environment = .ok arguments := by
  unfold Arguments.ofWords at accepted
  cases first : readLevel globalSwitches true none words [] with
  | error refusal =>
    rw [first] at accepted
    cases accepted
  | ok level =>
    obtain ⟨before, rest⟩ := level
    rw [first] at accepted
    simp only [bind, Except.bind] at accepted
    split at accepted
    · cases accepted
    next name rest =>
      split at accepted
      · cases accepted
      · split at accepted
        · cases accepted
        next switches found =>
          split at accepted
          · cases accepted
          next level second =>
            obtain ⟨after, surplus⟩ := level
            simp only at accepted
            split at accepted
            · cases accepted
            · exact ⟨name, switches, before, after, rest, surplus, rfl, found, second, accepted⟩

/-- The timeout of an accepted command line is read from a text that is a number, and its session
file has a name. -/
theorem texts_of_ofWords {words : List String} {environment : Config.Environment}
    {arguments : Arguments} (accepted : Arguments.ofWords words environment = .ok arguments) :
    ∃ timeout : Option String,
      arguments.timeoutSeconds = timeout.bind (Text.natural? Config.timeoutBound) ∧
      (∀ text ∈ timeout, (Text.natural? Config.timeoutBound text).isSome = true) ∧
      ∀ text ∈ arguments.sessionFile, text ≠ "" := by
  have read : ∀ {switches : List Switch} {atRoot : Bool} {words rest : List String}
      {given : Given}, readLevel switches atRoot none words [] = .ok (given, rest) →
        given.Fit switches := fun read =>
    fit_readLevel (fun _ impossible => by cases impossible) (fun _ impossible => by
      cases impossible) read
  obtain ⟨_, _, before, after, _, _, first, found, second, assembled⟩ := levels_of_ofWords accepted
  have fitBefore : before.Fits := (read first).fits (by decide)
  have fitAfter : after.Fits := (read second).fits (operands_of_command found)
  obtain ⟨timeout, path⟩ := texts_of_assemble assembled
  refine ⟨_, timeout, fun text given => ?_, fun text given => ?_⟩
  · exact (Option.or_eq_some_iff.mp given).elim (fitAfter.timeout text)
      fun given => fitBefore.timeout text given.2
  · rw [path] at given
    exact (Option.or_eq_some_iff.mp given).elim (fitAfter.sessionFile text)
      fun given => fitBefore.sessionFile text given.2

end TeacherRegistry.Console
