import TeacherRegistry.Proofs.Tokens

/-!
# Paths that leave no room

A file is written under another name first, beside the place where it belongs. So a path that is just
short enough for reading may be too long for writing: nothing can be changed then, and a session that
is stored there is not given up. Detours make a path as long as one likes.
-/

namespace TeacherRegistry

namespace Disk

/-- Whatever is written under a path, the disk stays as it is. -/
def Cramped (disk : Disk) (path : String) : Prop :=
  ∀ content, disk.write path content = (false, disk)

theorem cramped_of_size {disk : Disk} {path : String}
    (passable : disk.Passable (disk.origin path) (names path).dropLast)
    (long : pathLimit ≤ disk.draftPathSize path) : disk.Cramped path := by
  intro content
  unfold write
  split
  · rfl
  · rw [passable.makeDirectories]
    simp only
    split
    · rfl
    · rw [if_pos long]

end Disk

theorem Store.remove_cramped {path : String} {disk : Disk} (cramped : disk.Cramped path)
    (key reason : String) :
    ((Store.file path disk).remove key reason).store = .file path disk := by
  -- a removal may write entries or an empty file, or nothing at all
  have replaced : ∀ entries, ((Store.file path disk).replace entries).store = .file path disk := by
    intro entries
    simp only [Store.replace, cramped (Store.encode entries)]
  unfold Store.remove
  split
  · split
    · exact replaced _
    · rfl
  · exact replaced []
  · rfl

/-- Where nothing can be written the token outlives the session. -/
theorem World.token_of_cramped {w : World} {path : String} {disk : Disk}
    (stored : w.credentials = .stored) (store : w.store = .file path disk)
    (cramped : disk.Cramped path) : w.evict.token.1 = w.token.1 := by
  have stuck : ∀ key reason, (w.store.remove key reason).store = w.store := by
    intro key reason
    rw [store]
    exact Store.remove_cramped cramped key reason
  obtain ⟨same, credentials⟩ := evict_of_stuck stored stuck
  exact token_of_same same credentials

namespace Disk

/-! ### Detours -/

/-- Components that lead into a directory and out of it again. -/
def detours (n : Nat) : List String :=
  (List.replicate n ["d", ".."]).flatten

/-- A path that takes detours on the way to a file. -/
def detourPath (n : Nat) : String :=
  "/".intercalate (detours n ++ ["s"])

def detourDisk (content : ByteArray) : Disk :=
  ⟨[("work", .directory [("d", .empty), ("s", .file content)])], ["work"]⟩

theorem mem_detours {n : Nat} {piece : String} (among : piece ∈ detours n) :
    piece = "d" ∨ piece = ".." := by
  obtain ⟨pair, repeated, among⟩ := List.mem_flatten.mp among
  rw [(List.mem_replicate.mp repeated).2] at among
  simpa using among

theorem pieces_intercalate {names : List String} (filled : names ≠ [])
    (whole : ∀ name ∈ names, '/' ∉ name.toList) : pieces ("/".intercalate names) = names := by
  have slash : "/".toList = ['/'] := rfl
  have free : ∀ name ∈ names.map String.toList, '/' ∉ name := by
    intro name among
    obtain ⟨text, held, rfl⟩ := List.mem_map.mp among
    exact whole text held
  have same : String.ofList ∘ String.toList = id := by
    funext text
    exact String.ofList_toList
  rw [pieces, String.toList_intercalate, slash,
    List.splitOn_intercalate '/' free (by simpa using filled), List.map_map, same, List.map_id]

theorem pieces_detourPath (n : Nat) : pieces (detourPath n) = detours n ++ ["s"] := by
  refine pieces_intercalate (by simp) ?_
  intro name among
  rcases List.mem_append.mp among with detour | last
  · rcases mem_detours detour with rfl | rfl <;> decide
  · rw [List.mem_singleton.mp last]
    decide

theorem intercalate_detours (n : Nat) {rest : List String} (filled : rest ≠ []) :
    "/".intercalate (detours (n + 1) ++ rest) = "d/../" ++ "/".intercalate (detours n ++ rest) := by
  have more : ∃ first others, detours n ++ rest = first :: others := by
    cases whole : detours n ++ rest with
    | nil => exact absurd (List.append_eq_nil_iff.mp whole).2 filled
    | cons first others => exact ⟨first, others, rfl⟩
  obtain ⟨first, others, split⟩ := more
  have whole : detours (n + 1) ++ rest = "d" :: ".." :: first :: others := by
    rw [← split]
    rfl
  have written : "d/../" = "d" ++ "/" ++ (".." ++ "/") := by decide
  simp only [whole, split, String.intercalate_cons_cons, written, String.append_assoc]

theorem size_detours (n : Nat) {rest : List String} (filled : rest ≠ []) :
    ("/".intercalate (detours n ++ rest)).utf8ByteSize =
      5 * n + ("/".intercalate rest).utf8ByteSize := by
  induction n with
  | zero =>
    rw [Nat.mul_zero, Nat.zero_add]
    rfl
  | succ n ih =>
    have turn : "d/../".utf8ByteSize = 5 := by decide
    rw [intercalate_detours n filled, String.utf8ByteSize_append, ih, turn]
    omega

theorem detours_concat (n : Nat) : detours (n + 1) = detours n ++ ["d", ".."] := by
  rw [detours, List.replicate_succ', List.flatten_append]
  rfl

/-- Detours lead back to where they begin. -/
theorem walk_detours (location : Location) (n : Nat) :
    (detours n).foldl walk location = location := by
  have round : walk (walk location "d") ".." = location := by
    simp [walk]
  induction n with
  | zero => rfl
  | succ n ih =>
    show (detours n).foldl walk (walk (walk location "d") "..") = location
    rw [round, ih]

theorem passable_detours {disk : Disk} {location : Location} (here : disk.IsDirectory location)
    (aside : disk.IsDirectory (location ++ ["d"])) (n : Nat) :
    disk.Passable location (detours n) := by
  have out : walk location "d" = location ++ ["d"] := by simp [walk]
  have back : walk (location ++ ["d"]) ".." = location := by simp [walk]
  induction n with
  | zero => exact here
  | succ n ih =>
    -- in, out, and on from the same place
    refine ⟨here, by decide, ?_⟩
    rw [out]
    refine ⟨aside, by decide, ?_⟩
    rw [back]
    exact ih

theorem names_detourPath (n : Nat) : names (detourPath n) = detours n ++ ["s"] := by
  rw [names, pieces_detourPath]
  refine List.filter_eq_self.mpr ?_
  intro piece among
  rcases List.mem_append.mp among with detour | last
  · rcases mem_detours detour with rfl | rfl <;> decide
  · rw [List.mem_singleton.mp last]
    decide

theorem isUnusable_detourPath {n : Nat} (short : 5 * n + 1 < pathLimit) :
    isUnusable (detourPath n) = false := by
  have size : (detourPath n).utf8ByteSize = 5 * n + 1 := size_detours n (by simp)
  have legible : (detourPath n).toList.contains '\x00' = false := by
    clear short size
    induction n with
    | zero => decide
    | succ n ih =>
      have turn : "d/../".toList.contains '\x00' = false := by decide
      rw [detourPath, intercalate_detours n (by simp), String.toList_append,
        List.contains_append, turn, Bool.false_or]
      exact ih
  rw [isUnusable, legible, size, Bool.false_or, decide_eq_false_iff_not]
  exact Nat.not_le_of_lt short

theorem isAbsolute_detourPath (n : Nat) : isAbsolute (detourPath n) = false := by
  cases n with
  | zero => decide
  | succ n =>
    rw [isAbsolute, detourPath, intercalate_detours n (by simp), String.toList_append]
    rfl

section

variable (content : ByteArray)

theorem origin_detourPath (n : Nat) : (detourDisk content).origin (detourPath n) = ["work"] := by
  rw [origin, isAbsolute_detourPath]
  rfl

/-- All detours on the disk are open. -/
theorem passable_detourDisk (n : Nat) : (detourDisk content).Passable ["work"] (detours n) :=
  passable_detours ⟨_, rfl⟩ ⟨_, rfl⟩ n

theorem read_detourPath {n : Nat} (short : 5 * n + 1 < pathLimit) :
    (detourDisk content).read (detourPath n) = .content content := by
  have filled : detourPath n ≠ "" := by
    intro none
    have size : (detourPath n).utf8ByteSize = 5 * n + 1 := size_detours n (by simp)
    rw [none] at size
    cases size
  have found : (detourDisk content).follow ((detourDisk content).arrive ["work"]) ["s"] =
      .found ["work", "s"] (.file content) := rfl
  rw [read, resolve, if_neg filled, isUnusable_detourPath short, if_neg Bool.false_ne_true,
    origin_detourPath, pieces_detourPath, (passable_detourDisk content n).follow_append,
    walk_detours, found]

theorem draftPathSize_detourPath (n : Nat) :
    (detourDisk content).draftPathSize (detourPath (n + 1)) = 5 * n + 21 := by
  have directory : directoryPieces (detourPath (n + 1)) = detours (n + 1) := by
    rw [directoryPieces, pieces_detourPath, List.dropLast_concat, detours_concat]
    simp
  have size : ("/".intercalate (detours (n + 1))).utf8ByteSize = 5 * n + 4 := by
    rw [detours_concat, size_detours n (by simp)]
    rfl
  have filled : "/".intercalate (detours (n + 1)) ≠ "" := by
    intro none
    rw [none] at size
    cases size
  have base : (detourDisk content).workingDirectory = ["work"] := rfl
  have names : "/".utf8ByteSize = 1 ∧ "work".utf8ByteSize = 4 := by decide
  simp only [draftPathSize, isAbsolute_detourPath, Bool.false_eq_true, if_false, directory,
    if_neg filled, base, List.singleton_append, String.intercalate_cons_cons,
    String.intercalate_singleton, String.utf8ByteSize_append, size, names, draftNameSize]
  omega

theorem cramped_detourPath {n : Nat} (long : pathLimit ≤ 5 * n + 21) :
    (detourDisk content).Cramped (detourPath (n + 1)) := by
  refine cramped_of_size ?_ ?_
  -- no directory is missing on the way, so none is made
  · rw [origin_detourPath, names_detourPath, List.dropLast_concat]
    exact passable_detourDisk content (n + 1)
  · rw [draftPathSize_detourPath]
    exact long

end

end Disk

end TeacherRegistry
