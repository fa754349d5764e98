import TeacherRegistry.Disk

/-!
# Reading a file after it was written

A path is followed through directories only, so the place where it ends is known from its components
alone, as long as every place on the way is a directory. Writing a file keeps all directories that
were there and makes those that were not. Hence a path that can be written can be read and written
again, and it then leads to what was written.
-/

namespace TeacherRegistry.Disk

/-! ### Nodes below a node -/

namespace Node

theorem at?_append (node : Node) (above below : Location) :
    node.at? (above ++ below) = (node.at? above).bind (·.at? below) := by
  induction above generalizing node with
  | nil => rfl
  | cons name above ih =>
    rw [List.cons_append, at?, at?, Option.bind_assoc]
    congr 1
    funext child
    exact ih child

theorem at?_putAt_self (added node : Node) (location : Location) :
    (putAt added node location).at? location = some added := by
  induction location generalizing node with
  | nil => rfl
  | cons name rest ih =>
    rw [putAt, at?, entries, List.lookup_cons_self, Option.bind_some]
    exact ih _

private theorem lookup_without {name other : String} (different : other ≠ name)
    (entries : List (String × Node)) :
    (entries.filter fun entry => entry.1 ≠ name).lookup other = entries.lookup other := by
  induction entries with
  | nil => rfl
  | cons entry rest ih =>
    by_cases removed : entry.1 = name
    · have passed : (other == entry.1) = false := by simp [removed, different]
      rw [List.filter_cons, if_neg (by simp [removed]), ih, List.lookup_cons, passed]
    · rw [List.filter_cons, if_pos (by simp [removed]), List.lookup_cons, List.lookup_cons, ih]

/-- Directories outlive what is put elsewhere, and what is put in place of a file. -/
theorem at?_putAt_directory (added : Node) {node : Node} {target location : Location}
    (replaceable : ∀ held, node.at? target ≠ some (.directory held))
    {held : List (String × Node)} (here : node.at? location = some (.directory held)) :
    ∃ held, (putAt added node target).at? location = some (.directory held) := by
  induction target generalizing node location with
  | nil =>
    cases node with
    | directory held => exact absurd rfl (replaceable held)
    | file content => cases location <;> cases here
  | cons name rest ih =>
    cases location with
    | nil => exact ⟨_, rfl⟩
    | cons other below =>
      obtain ⟨child, found, here⟩ := Option.bind_eq_some_iff.mp here
      -- below the same name go on, below another nothing has changed
      by_cases same : other = name
      · subst same
        rw [putAt, at?, entries, List.lookup_cons_self, Option.bind_some, found, Option.getD_some]
        refine ih (fun held reached => replaceable held ?_) here
        rw [at?, found, Option.bind_some, reached]
      · have passed : (other == name) = false := by simp [same]
        refine ⟨held, ?_⟩
        rw [putAt, at?, entries, List.lookup_cons, passed]
        simp only
        rw [lookup_without same, found, Option.bind_some, here]

end Node

/-! ### Directories of a disk -/

def IsDirectory (disk : Disk) (location : Location) : Prop :=
  ∃ held, disk.node? location = some (.directory held)

theorem node?_snoc (disk : Disk) (location : Location) (name : String) :
    disk.node? (location ++ [name]) =
      (disk.node? location).bind fun node => node.entries.lookup name := by
  rw [node?, Node.at?_append]
  congr 1
  funext node
  rw [Node.at?]
  cases node.entries.lookup name <;> rfl

theorem IsDirectory.dropLast {disk : Disk} {location : Location}
    (here : disk.IsDirectory location) : disk.IsDirectory location.dropLast := by
  rcases List.eq_nil_or_concat location with rfl | ⟨above, name, rfl⟩
  · exact here
  · obtain ⟨held, here⟩ := here
    rw [List.concat_eq_append, node?_snoc] at here
    obtain ⟨node, there, found⟩ := Option.bind_eq_some_iff.mp here
    rw [List.concat_eq_append, List.dropLast_concat]
    cases node with
    | directory held => exact ⟨held, there⟩
    | file content => cases found

private theorem root_put (disk : Disk) (location : Location) (name : String) (node : Node) :
    (disk.put (location ++ [name]) node).root =
      Node.putAt node disk.root (location ++ [name]) := by
  cases location <;> rfl

theorem node?_put_self (disk : Disk) (location : Location) (name : String) (node : Node) :
    (disk.put (location ++ [name]) node).node? (location ++ [name]) = some node := by
  rw [node?, root_put, Node.at?_putAt_self]

theorem IsDirectory.put {disk : Disk} {target location : Location} {name : String} (added : Node)
    (replaceable : ¬ disk.IsDirectory (target ++ [name])) (here : disk.IsDirectory location) :
    (disk.put (target ++ [name]) added).IsDirectory location := by
  obtain ⟨held, here⟩ := here
  obtain ⟨held, there⟩ := Node.at?_putAt_directory added
    (fun held reached => replaceable ⟨held, reached⟩) here
  exact ⟨held, by rw [node?, root_put, there]⟩

/-! ### Following a path through directories -/

/-- Where one component leads from a directory. -/
def walk (location : Location) (piece : String) : Location :=
  if piece = "" ∨ piece = "." then location
  else if piece = ".." then location.dropLast
  else location ++ [piece]

/-- In a directory a component leads where it says, unless it is too long for a name. -/
theorem step_eq_arrive {disk : Disk} {location : Location} {held : List (String × Node)}
    (here : disk.node? location = some (.directory held)) {piece : String}
    (short : piece.utf8ByteSize ≤ nameLimit) :
    disk.step location (.directory held) piece = disk.arrive (walk location piece) := by
  unfold step walk
  dsimp only
  split
  · rw [arrive, here]
  · split
    · rfl
    · rw [if_neg (by omega), arrive, node?_snoc, here, Option.bind_some, Node.entries]

/-- Components that are each tried in a directory and are short enough for names. -/
def Passable (disk : Disk) : Location → List String → Prop
  | location, [] => disk.IsDirectory location
  | location, piece :: rest =>
    disk.IsDirectory location ∧ piece.utf8ByteSize ≤ nameLimit ∧
      Passable disk (walk location piece) rest

theorem Passable.isDirectory {disk : Disk} {location : Location} {pieces : List String}
    (passable : disk.Passable location pieces) : disk.IsDirectory location := by
  cases pieces with
  | nil => exact passable
  | cons piece rest => exact passable.1

theorem Passable.end {disk : Disk} {location : Location} {pieces : List String}
    (passable : disk.Passable location pieces) : disk.IsDirectory (pieces.foldl walk location) := by
  induction pieces generalizing location with
  | nil => exact passable
  | cons piece rest ih => exact ih passable.2.2

theorem Passable.mono {disk later : Disk}
    (kept : ∀ location, disk.IsDirectory location → later.IsDirectory location)
    {location : Location} {pieces : List String} (passable : disk.Passable location pieces) :
    later.Passable location pieces := by
  induction pieces generalizing location with
  | nil => exact kept location passable
  | cons piece rest ih => exact ⟨kept location passable.1, passable.2.1, ih passable.2.2⟩

theorem follow_arrive_cons {disk : Disk} {location : Location} {piece : String}
    (here : disk.IsDirectory location) (short : piece.utf8ByteSize ≤ nameLimit)
    (rest : List String) :
    disk.follow (disk.arrive location) (piece :: rest) =
      disk.follow (disk.arrive (walk location piece)) rest := by
  obtain ⟨held, here⟩ := here
  have arrived : disk.arrive location = .found location (.directory held) := by rw [arrive, here]
  rw [arrived, follow, step_eq_arrive here short]

theorem Passable.follow_append {disk : Disk} {location : Location} {pieces : List String}
    (passable : disk.Passable location pieces) (rest : List String) :
    disk.follow (disk.arrive location) (pieces ++ rest) =
      disk.follow (disk.arrive (pieces.foldl walk location)) rest := by
  induction pieces generalizing location with
  | nil => rfl
  | cons piece others ih =>
    rw [List.cons_append, follow_arrive_cons passable.1 passable.2.1]
    exact ih passable.2.2

theorem follow_nil (disk : Disk) (arrival : Arrival) : disk.follow arrival [] = arrival := by
  cases arrival <;> rfl

theorem follow_name {disk : Disk} {location : Location} {name : String}
    (here : disk.IsDirectory location) (short : name.utf8ByteSize ≤ nameLimit) :
    disk.follow (disk.arrive location) [name] = disk.arrive (walk location name) := by
  rw [follow_arrive_cons here short, follow_nil]

/-- A component that is too long for a name leads nowhere. -/
private theorem follow_long {disk : Disk} {location : Location} {name : String}
    (here : disk.IsDirectory location) (long : ¬ name.utf8ByteSize ≤ nameLimit) :
    disk.follow (disk.arrive location) [name] = .blocked := by
  obtain ⟨held, here⟩ := here
  have arrived : disk.arrive location = .found location (.directory held) := by rw [arrive, here]
  have notDots : ¬ (name = "" ∨ name = ".") ∧ name ≠ ".." := by
    refine ⟨?_, ?_⟩
    · rintro (rfl | rfl) <;> exact long (by decide)
    · rintro rfl
      exact long (by decide)
  rw [arrived, follow, follow_nil, step, if_neg notDots.1, if_neg notDots.2, if_pos (by omega)]

/-- What is missing in a directory is a name of its own. -/
private theorem walk_absent {disk : Disk} {location : Location} {piece : String}
    (here : disk.IsDirectory location) (absent : disk.node? (walk location piece) = none) :
    walk location piece = location ++ [piece] := by
  unfold walk at *
  split at absent
  · obtain ⟨held, here⟩ := here
    rw [here] at absent
    cases absent
  · split at absent
    · obtain ⟨held, above⟩ := here.dropLast
      rw [above] at absent
      cases absent
    · rename_i notDot notDots
      rw [if_neg notDot, if_neg notDots]

/-! ### Making directories -/

/-- Directories that are there already are not made again. -/
theorem Passable.makeDirectories {disk : Disk} {location : Location} {names : List String}
    (passable : disk.Passable location names) :
    disk.makeDirectories location names = (some (names.foldl walk location), disk) := by
  induction names generalizing location with
  | nil => rfl
  | cons piece rest ih =>
    obtain ⟨held, there⟩ := passable.2.2.isDirectory
    have arrived : disk.follow (disk.arrive location) [piece] =
        .found (walk location piece) (.directory held) := by
      rw [follow_name passable.1 passable.2.1, arrive, there]
    rw [Disk.makeDirectories, arrived]
    exact ih passable.2.2

/-- What making directories comes to: the path can be followed, it ends where its components say,
and every directory that was there still is. -/
theorem makeDirectories_cases {disk made : Disk} {location target : Location} {names : List String}
    (here : disk.IsDirectory location)
    (succeeded : disk.makeDirectories location names = (some target, made)) :
    made.Passable location names ∧ target = names.foldl walk location ∧
      (∀ l, disk.IsDirectory l → made.IsDirectory l) ∧
      made.workingDirectory = disk.workingDirectory := by
  induction names generalizing disk location with
  | nil =>
    cases succeeded
    exact ⟨here, rfl, fun _ directory => directory, rfl⟩
  | cons piece rest ih =>
    by_cases short : piece.utf8ByteSize ≤ nameLimit
    · rw [Disk.makeDirectories, follow_name here short, arrive] at succeeded
      cases there : disk.node? (walk location piece) with
      | some node =>
        rw [there] at succeeded
        cases node with
        | file content => cases succeeded
        | directory held =>
          obtain ⟨passable, target, kept, same⟩ := ih ⟨held, there⟩ succeeded
          exact ⟨⟨kept location here, short, passable⟩, target, kept, same⟩
      | none =>
        -- the directory that is made here stands in place of nothing, so all others stay
        have leads := walk_absent here there
        have missing : ¬ disk.IsDirectory (location ++ [piece]) := by
          rintro ⟨held, reached⟩
          rw [← leads, there] at reached
          cases reached
        have fresh : (disk.put (location ++ [piece]) .empty).IsDirectory (location ++ [piece]) :=
          ⟨[], node?_put_self disk location piece .empty⟩
        rw [there] at succeeded
        obtain ⟨passable, target, kept, same⟩ := ih fresh succeeded
        have keptAll : ∀ l, disk.IsDirectory l → made.IsDirectory l :=
          fun l directory => kept l (directory.put .empty missing)
        rw [← leads] at passable target
        exact ⟨⟨keptAll location here, short, passable⟩, target, keptAll, same⟩
    · rw [Disk.makeDirectories, follow_long here short] at succeeded
      cases succeeded

/-! ### Writing a file -/

/-- Dots and empty components do not matter to where a path leads. -/
private theorem walk_names (pieces : List String) (location : Location) :
    (pieces.filter fun piece => piece ≠ "" ∧ piece ≠ ".").foldl walk location =
      pieces.foldl walk location := by
  induction pieces generalizing location with
  | nil => rfl
  | cons piece rest ih =>
    by_cases dot : piece = "" ∨ piece = "."
    · have dropped : ¬ (piece ≠ "" ∧ piece ≠ ".") := by grind
      rw [List.filter_cons, if_neg (by simpa using dropped), ih, List.foldl_cons, walk, if_pos dot]
    · have kept : piece ≠ "" ∧ piece ≠ "." := by grind
      rw [List.filter_cons, if_pos (by simpa using kept), List.foldl_cons, List.foldl_cons, ih]

private theorem Passable.of_names {disk : Disk} {pieces : List String} {location : Location}
    (passable : disk.Passable location
      (pieces.filter fun piece => piece ≠ "" ∧ piece ≠ ".")) :
    disk.Passable location pieces := by
  induction pieces generalizing location with
  | nil => exact passable
  | cons piece rest ih =>
    by_cases dot : piece = "" ∨ piece = "."
    -- a component that is left out stays in a directory, and it is short enough for a name
    · have dropped : ¬ (piece ≠ "" ∧ piece ≠ ".") := by grind
      have short : piece.utf8ByteSize ≤ nameLimit := by rcases dot with rfl | rfl <;> decide
      rw [List.filter_cons, if_neg (by simpa using dropped)] at passable
      refine ⟨passable.isDirectory, short, ?_⟩
      rw [walk, if_pos dot]
      exact ih passable
    · have kept : piece ≠ "" ∧ piece ≠ "." := by grind
      rw [List.filter_cons, if_pos (by simpa using kept)] at passable
      exact ⟨passable.1, passable.2.1, ih passable.2.2⟩

/-- The name of a file is the last component of its path. -/
private theorem pieces_of_fileName? {path name : String} (named : fileName? path = some name) :
    ∃ before, pieces path = before ++ [name] ∧
      (names path).dropLast = before.filter fun piece => piece ≠ "" ∧ piece ≠ "." := by
  obtain ⟨last, proper⟩ := Option.filter_eq_some_iff.mp named
  have proper : name ≠ "" ∧ name ≠ "." ∧ name ≠ ".." := by simpa using proper
  obtain ⟨before, split⟩ := List.getLast?_eq_some_iff.mp last
  refine ⟨before, split, ?_⟩
  rw [names, split, List.filter_append, List.filter_cons, if_pos (by simp [proper.1, proper.2.1])]
  exact List.dropLast_concat

private theorem walk_fileName {path name : String} (named : fileName? path = some name)
    (location : Location) : walk location name = location ++ [name] := by
  have proper : name ≠ "" ∧ name ≠ "." ∧ name ≠ ".." := by
    simpa using (Option.filter_eq_some_iff.mp named).2
  rw [walk, if_neg (by simp [proper.1, proper.2.1]), if_neg proper.2.2]

/-- The place of the directory that the file under a path is in. -/
def directoryOf (disk : Disk) (path : String) : Location :=
  (names path).dropLast.foldl walk (disk.origin path)

/-- The disk on which a file can be put under a path, once the directories are made. -/
structure Placed (disk : Disk) (path name : String) (made : Disk) : Prop where
  usable : isUnusable path = false
  named : fileName? path = some name
  passable : made.Passable (disk.origin path) (names path).dropLast
  short : name.utf8ByteSize ≤ nameLimit
  fits : made.draftPathSize path < pathLimit
  replaceable : ¬ made.IsDirectory (disk.directoryOf path ++ [name])
  base : made.workingDirectory = disk.workingDirectory

/-- What a successful write did. -/
theorem write_cases {disk : Disk} {path : String} {content : ByteArray}
    (start : disk.IsDirectory (disk.origin path)) (succeeded : (disk.write path content).1 = true) :
    ∃ name made, Placed disk path name made ∧
      (disk.write path content).2 = made.put (disk.directoryOf path ++ [name]) (.file content) := by
  unfold write at *
  split at succeeded
  · cases succeeded
  next usable =>
    rw [if_neg usable]
    cases makes : disk.makeDirectories (disk.origin path) (names path).dropLast with
    | mk reached made =>
      rw [makes] at succeeded
      cases reached with
      | none => cases succeeded
      | some directory =>
        cases named : fileName? path with
        | none =>
          rw [named] at succeeded
          cases succeeded
        | some name =>
          rw [named] at succeeded
          obtain ⟨passable, target, -, base⟩ := makeDirectories_cases start makes
          -- from here on the directory is the one that the path names
          change directory = disk.directoryOf path at target
          have here : made.IsDirectory directory := target ▸ passable.end
          subst target
          simp only at succeeded ⊢
          split at succeeded
          · cases succeeded
          next fits =>
            rw [if_neg fits]
            by_cases short : name.utf8ByteSize ≤ nameLimit
            · rw [follow_name here short, walk_fileName named, arrive] at succeeded ⊢
              refine ⟨name, made, ⟨by simpa using usable, named, passable, short, by omega, ?_,
                base⟩, ?_⟩
              -- a directory in the place of the file would have stopped the write
              · rintro ⟨held, there⟩
                rw [there] at succeeded
                cases succeeded
              · cases there : made.node? (disk.directoryOf path ++ [name]) with
                | none => rfl
                | some node =>
                  rw [there] at succeeded
                  cases node with
                  | file _ => rfl
                  | directory _ => cases succeeded
            · rw [follow_long here short] at succeeded
              cases succeeded

namespace Placed

variable {disk made : Disk} {path name : String} (placed : Placed disk path name made)
  (content : ByteArray)

include placed

private theorem origin_put :
    (made.put (disk.directoryOf path ++ [name]) (.file content)).origin path =
      disk.origin path := by
  simp only [origin, put, placed.base]

/-- The way to the file is open after the file was put there. -/
private theorem passable_put :
    (made.put (disk.directoryOf path ++ [name]) (.file content)).Passable (disk.origin path)
      (names path).dropLast :=
  placed.passable.mono fun _ directory => directory.put (.file content) placed.replaceable

private theorem follow_put (disk' : Disk)
    (written : disk' = made.put (disk.directoryOf path ++ [name]) (.file content)) :
    disk'.follow (disk'.arrive (disk.directoryOf path)) [name] =
      .found (disk.directoryOf path ++ [name]) (.file content) := by
  have here : disk'.IsDirectory (disk.directoryOf path) :=
    written ▸ (placed.passable_put content).end
  rw [follow_name here placed.short, walk_fileName placed.named, arrive, written, node?_put_self]

theorem read_put :
    (made.put (disk.directoryOf path ++ [name]) (.file content)).read path = .content content := by
  have filled : path ≠ "" := by
    rintro rfl
    have nameless : fileName? "" = none := by decide
    rw [placed.named] at nameless
    cases nameless
  -- reading follows all components, writing only the names among them
  obtain ⟨before, split, inner⟩ := pieces_of_fileName? placed.named
  have way := placed.passable_put content
  rw [inner] at way
  have ending : before.foldl walk (disk.origin path) = disk.directoryOf path := by
    rw [directoryOf, inner, walk_names]
  rw [read, resolve, if_neg filled, if_neg (by simp [placed.usable]), split,
    placed.origin_put content, way.of_names.follow_append, ending, placed.follow_put content _ rfl]

theorem write_put (other : ByteArray) :
    ((made.put (disk.directoryOf path ++ [name]) (.file content)).write path other).1 = true := by
  have size : (made.put (disk.directoryOf path ++ [name]) (.file content)).draftPathSize path =
      made.draftPathSize path := rfl
  have makes : (made.put (disk.directoryOf path ++ [name]) (.file content)).makeDirectories
      (disk.origin path) (names path).dropLast = (some (disk.directoryOf path), _) :=
    (placed.passable_put content).makeDirectories
  have fits := placed.fits
  rw [write, if_neg (by simp [placed.usable]), placed.origin_put content, makes, placed.named]
  simp only
  rw [if_neg (by omega), placed.follow_put content _ rfl]

end Placed

/-- A file under a path can be read and written: its path has a directory to start from, and
neither reading nor writing fails. -/
structure Serves (disk : Disk) (path : String) : Prop where
  start : disk.IsDirectory (disk.origin path)
  writable : ∀ content, (disk.write path content).1 = true
  readable : disk.read path ≠ .failed

/-- A file that can be read and written still can after it was written, and it then holds what was
written. -/
theorem Serves.write {disk : Disk} {path : String} (serves : disk.Serves path)
    (content : ByteArray) :
    (disk.write path content).2.Serves path ∧
      (disk.write path content).2.read path = .content content := by
  obtain ⟨name, made, placed, written⟩ := write_cases serves.start (serves.writable content)
  have reads := placed.read_put content
  rw [written]
  refine ⟨⟨?_, placed.write_put content, ?_⟩, reads⟩
  · rw [placed.origin_put content]
    exact (placed.passable_put content).isDirectory
  · rw [reads]
    intro impossible
    cases impossible

/-- A disk with one file of this content in the working directory. -/
def sessionDisk (content : ByteArray) : Disk :=
  ⟨[("work", .directory [("session.json", .file content)])], ["work"]⟩

theorem read_sessionDisk (content : ByteArray) :
    (sessionDisk content).read "session.json" = .content content := rfl

theorem serves_sessionDisk (content : ByteArray) :
    (sessionDisk content).Serves "session.json" :=
  ⟨⟨_, rfl⟩, fun _ => rfl, nofun⟩

end TeacherRegistry.Disk
