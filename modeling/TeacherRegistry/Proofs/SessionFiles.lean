import TeacherRegistry.Proofs.Eviction
import TeacherRegistry.Proofs.StoreRefinement
import TeacherRegistry.Proofs.TextObjects
import TeacherRegistry.Session

/-!
# Session files that cannot be understood

A session file with anything else in it than one object of texts has no entries. As long as it is
there nothing is put in its place; the removal of a key, of whichever, makes the file an empty store.
So nothing is overwritten by mistake, and a session can be given up whatever the file holds.
-/

namespace TeacherRegistry

open Http (finalStatus?)
open TransportError (unauthorized)

namespace Store

/-- There is something under the path, and it is no object of texts. -/
def Corrupt (reading : Disk.Reading) : Prop :=
  ∃ bytes, reading = .content bytes ∧ bytes.size ≠ 0 ∧
    ∀ s pairs, bytes = String.toUTF8 s → ¬ Json.WritesObject s pairs

theorem decode?_eq_none_iff (bytes : ByteArray) :
    decode? bytes = none ↔ bytes.size ≠ 0 ∧
      ∀ s pairs, bytes = String.toUTF8 s → ¬ Json.WritesObject s pairs := by
  by_cases empty : bytes.size = 0
  · simp [decode?, ByteArray.isEmpty, empty]
  · have filled : bytes.isEmpty = false := by simpa [ByteArray.isEmpty] using empty
    simp only [decode?, filled, Bool.false_eq_true, if_false]
    constructor
    · intro unread
      refine ⟨empty, fun s pairs same written => ?_⟩
      obtain ⟨members, read, holds⟩ :=
        (Json.document_of_object_iff bytes pairs).mpr ⟨s, same, written⟩
      rw [read] at unread
      simp only [(textMembers?_iff members pairs).mpr holds] at unread
      cases unread
    · rintro ⟨_, other⟩
      split
      next members read =>
        rw [Option.map_eq_none_iff, Option.eq_none_iff_forall_ne_some]
        intro pairs texts
        obtain ⟨s, same, written⟩ := (Json.document_of_object_iff bytes pairs).mp
          ⟨members, read, (textMembers?_iff members pairs).mp texts⟩
        exact other s pairs same written
      · rfl

section File

variable {path : String} {disk : Disk}

theorem entries_corrupt_iff :
    (Store.file path disk).entries = .error .corrupt ↔ Corrupt (disk.read path) := by
  unfold Corrupt
  cases reading : disk.read path with
  | missing => simp [entries_missing reading]
  | failed => simp [entries_failed reading]
  | content bytes =>
    rw [entries_content reading]
    simp only [Disk.Reading.content.injEq, exists_eq_left', ← decode?_eq_none_iff]
    cases decode? bytes <;> simp

theorem get?_corrupt_iff (key : String) :
    (Store.file path disk).get? key = .error .corrupt ↔ Corrupt (disk.read path) := by
  rw [← entries_corrupt_iff, get?]
  cases (Store.file path disk).entries <;> simp [Except.map]

/-- The removal of a key that is not there. -/
theorem remove_of_absent {store : Store} {key : String} (absent : store.get? key = .ok none) :
    ∀ reason, store.remove key reason = ⟨.ok (), store, []⟩ := by
  intro reason
  unfold get? at absent
  cases readable : store.entries with
  | error e =>
    rw [readable] at absent
    cases absent
  | ok d =>
    rw [readable] at absent
    have none : d.get? key = none := Except.ok.inj absent
    rw [remove, readable]
    simp only [none, Option.isSome_none, Bool.false_eq_true, if_false]

theorem writesObject_empty : ∃ s : String, encode [] = s.toUTF8 ∧ Json.WritesObject s [] := by
  refine ⟨_, rfl, ?_⟩
  rw [Json.WritesObject, String.toList_ofList]
  have opening : Json.TokenWritten ['{'] (.mark '{') := .mark (by decide)
  have closing : Json.TokenWritten ['}'] (.mark '}') := .mark (by decide)
  exact .word opening (.word closing .nil)

/-- The removal of a key from a file that cannot be understood. -/
theorem remove_of_corrupt (serves : disk.Serves path) (corrupt : Corrupt (disk.read path))
    (key reason : String) :
    ∃ disk', ((Store.file path disk).remove key reason).store = .file path disk' ∧
      disk'.read path = .content (encode []) := by
  obtain ⟨_, reads⟩ := serves.write (encode [])
  have written := serves.writable (encode [])
  rw [remove, entries_corrupt_iff.mpr corrupt]
  simp only [replace]
  cases result : disk.write path (encode []) with
  | mk done disk' =>
    rw [result] at reads written
    subst written
    exact ⟨disk', rfl, reads⟩

end File

end Store

namespace World

/-- A journal does not report that a key could not be removed. -/
def Untroubled (journal : Journal) : Prop :=
  ∀ key message spans, Entry.logged (.evictionFailed key message) spans ∉ journal

/-- A session was given up without trouble. -/
structure Forgets (w v : World) : Prop where
  token : v.store.get? Store.tokenKey = .ok none
  user : v.store.get? Store.userKey = .ok none
  untroubled : ∃ news, v.journal = w.journal ++ news ∧ Untroubled news

theorem untroubled_logged {events : List Log.Event} (spans : List Log.Span)
    (other : ∀ key message, Log.Event.evictionFailed key message ∉ events) :
    Untroubled (events.map fun event => .logged event spans) := by
  intro key message spans' inside
  obtain ⟨event, reported, same⟩ := List.mem_map.mp inside
  cases same
  exact other key message reported

end World

theorem Store.evictionFailed_not_mem_remove (store : Store) (key reason other message : String) :
    Log.Event.evictionFailed other message ∉ (store.remove key reason).events := by
  have replace (d : Dictionary String) :
      Log.Event.evictionFailed other message ∉ (store.replace d).events := by
    unfold Store.replace
    split
    · exact List.not_mem_nil
    · split <;> simp
  unfold Store.remove
  split
  · split
    · exact replace _
    · exact List.not_mem_nil
  · simp [replace]
  · exact List.not_mem_nil

namespace World

variable {w : World}

/-- Both keys of a session can be removed one after the other. -/
theorem remove_both (serves : w.store.Serves) :
    (w.remove Store.tokenKey).1 = .ok () ∧
      ((w.remove Store.tokenKey).2.remove Store.userKey).1 = .ok () ∧
      w.Forgets ((w.remove Store.tokenKey).2.remove Store.userKey).2 := by
  have first := Store.remove_leaves serves Store.tokenKey (w.reason .corrupt)
  have second := Store.remove_leaves first.serves Store.userKey
    ((w.remove Store.tokenKey).2.reason .corrupt)
  have entries := second.entries
  rw [Store.contents_of_entries first.entries] at entries
  obtain ⟨token, user, _⟩ := Store.get?_of_given_up entries
  have grown : ((w.remove Store.tokenKey).2.remove Store.userKey).2.journal = w.journal ++
      ((w.store.remove Store.tokenKey (w.reason .corrupt)).events ++
        ((w.remove Store.tokenKey).2.store.remove Store.userKey
          ((w.remove Store.tokenKey).2.reason .corrupt)).events).map
            fun event => .logged event w.spans := by
    rw [List.map_append, ← List.append_assoc]
    rfl
  refine ⟨first.outcome, second.outcome, token, user, _, grown, ?_⟩
  apply untroubled_logged
  intro key message reported
  rcases List.mem_append.mp reported with reported | reported
  · exact Store.evictionFailed_not_mem_remove _ _ _ _ _ reported
  · exact Store.evictionFailed_not_mem_remove _ _ _ _ _ reported

private theorem evictKey_of_ok {key : String} (removed : (w.remove key).1 = .ok ()) :
    w.evictKey key = (w.remove key).2 := by
  unfold evictKey
  split
  next same => rw [same]
  next same =>
    rw [same] at removed
    cases removed

theorem evict_forgets (stored : w.credentials = .stored) (serves : w.store.Serves) :
    w.Forgets w.evict := by
  obtain ⟨first, second, forgets⟩ := remove_both serves
  have both : w.evict = ((w.remove Store.tokenKey).2.remove Store.userKey).2 := by
    rw [evict, stored]
    simp only
    rw [evictKey_of_ok first, evictKey_of_ok second]
  rw [both]
  exact forgets

end World

theorem Session.logout_forgets {w : World} (serves : w.store.Serves) :
    (logout w).1 = .ok () ∧ w.Forgets (logout w).2 := by
  obtain ⟨first, second, forgets⟩ := World.remove_both serves
  obtain ⟨news, grown, untroubled⟩ := forgets.untroubled
  have one : w.remove Store.tokenKey = (.ok (), (w.remove Store.tokenKey).2) := Prod.ext first rfl
  have two : (w.remove Store.tokenKey).2.remove Store.userKey =
      (.ok (), ((w.remove Store.tokenKey).2.remove Store.userKey).2) := Prod.ext second rfl
  have both : logout w =
      (.ok (), ((w.remove Store.tokenKey).2.remove Store.userKey).2.log .sessionCleared) := by
    rw [logout, one]
    simp only
    rw [two]
  rw [both]
  refine ⟨rfl, forgets.token, forgets.user, news ++ [.logged .sessionCleared w.spans], ?_, ?_⟩
  · rw [← List.append_assoc, ← grown]
    rfl
  · intro key message spans inside
    rcases List.mem_append.mp inside with inside | inside
    · exact untroubled key message spans inside
    · cases List.mem_singleton.mp inside

namespace Store

/-- How a store in a file is dealt with, whatever the file holds: one that cannot be understood is
kept, until a key is removed from it or the session is given up. -/
structure Recoverable (path : String) (disk : Disk) : Prop where
  found : ∀ key, (Store.file path disk).get? key = .error .corrupt ↔ Corrupt (disk.read path)
  looked : ∀ key, ((Store.file path disk).perform (.get key)).2 = .file path disk
  kept : Corrupt (disk.read path) → ∀ key value,
    (Store.file path disk).set key value = ⟨.error .corrupt, .file path disk, []⟩
  removed : Corrupt (disk.read path) → ∀ key reason, ∃ disk' s,
    ((Store.file path disk).remove key reason).outcome = .ok () ∧
      ((Store.file path disk).remove key reason).store = .file path disk' ∧
      disk'.read path = .content (String.toUTF8 s) ∧ Json.WritesObject s []
  renewed : Corrupt (disk.read path) → ∀ key reason (fresh : Store), fresh.Serves →
    fresh.entries = .ok [] → ∀ operations,
      (((Store.file path disk).remove key reason).store.performAll operations).1 =
        (fresh.performAll operations).1
  absent : ∀ key, (Store.file path disk).get? key = .ok none →
    ∀ reason, (Store.file path disk).remove key reason = ⟨.ok (), .file path disk, []⟩
  loggedOut : ∀ w : World, w.store = .file path disk →
    (Session.logout w).1 = .ok () ∧ w.Forgets (Session.logout w).2
  evicted : ∀ w : World, w.store = .file path disk → w.credentials = .stored → w.Forgets w.evict
  /-- Whatever is asked of the server, its refusal takes the session out of the store. -/
  refused : ∀ (α : Type) (client : Client) (decode : ByteArray → Option α)
    (method relative : String) (body : Option String) (w : World), w.store = .file path disk →
    w.credentials = .stored →
    let called := client.request decode method relative body w
    finalStatus? (called.2.since w).hops = some unauthorized →
      called.2.store.get? tokenKey = .ok none ∧ called.2.store.get? userKey = .ok none

/-- No session file is overwritten as long as it cannot be understood, and a session can be given
up whatever its file holds. -/
theorem file_recoverable {path : String} {disk : Disk} (serves : disk.Serves path) :
    Recoverable path disk := by
  have serving : (Store.file path disk).Serves := serves
  have leaves := remove_leaves serving
  constructor
  · exact get?_corrupt_iff
  · exact fun _ => rfl
  · exact fun corrupt => set_of_error (entries_corrupt_iff.mpr corrupt)
  · intro corrupt key reason
    obtain ⟨disk', same, reads⟩ := remove_of_corrupt serves corrupt key reason
    obtain ⟨s, bytes, written⟩ := writesObject_empty
    exact ⟨disk', s, (leaves key reason).outcome, same, bytes ▸ reads, written⟩
  · intro corrupt key reason fresh serves' empty operations
    have none : (Store.file path disk).contents = [] := by
      rw [contents, entries_corrupt_iff.mpr corrupt]
    have entries := (leaves key reason).entries
    rw [none] at entries
    exact (performAll_agrees operations _ fresh (leaves key reason).serves serves' entries empty).1
  · exact fun _ => remove_of_absent
  · intro w same
    apply Session.logout_forgets
    rw [same]
    exact serves
  · intro w same stored
    apply World.evict_forgets stored
    rw [same]
    exact serves
  · intro α client decode method relative body w same stored called refusal
    have guarded : w.Guarded := ⟨stored, by rw [same]; exact serves⟩
    obtain ⟨news, grown, treats⟩ := client.request_treats decode method relative body guarded
    rw [World.since_eq grown] at refusal
    obtain ⟨token, user, _⟩ := get?_of_given_up (treats.refusal refusal)
    exact ⟨token, user⟩

/-- A file in the middle of whose first member the writing broke off. -/
def brokenOff : Store :=
  .file "session.json" (Disk.sessionDisk "\x7b\n  \"token\": \"tok-".toUTF8)

theorem file_recoverable_brokenOff :
    brokenOff.set "token" "x" = ⟨.error .corrupt, brokenOff, []⟩ ∧
      ((brokenOff.remove "user").store.performAll
          [.get "token", .set "token" "x", .get "token"]).1 =
        [.found (.ok none), .changed (.ok ()), .found (.ok (some "x"))] := by
  have recoverable := file_recoverable (Disk.serves_sessionDisk "\x7b\n  \"token\": \"tok-".toUTF8)
  have corrupt := (recoverable.found "token").mp rfl
  refine ⟨recoverable.kept corrupt "token" "x", ?_⟩
  exact (recoverable.renewed corrupt "user" "" (.memory []) trivial rfl _).trans rfl

end Store

end TeacherRegistry
