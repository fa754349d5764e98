import TeacherRegistry.Proofs.Calls
import TeacherRegistry.Session

/-!
# A login is all or nothing

A session is opened only by an object that holds a token, and then the token, the profile and nothing
else in the store are new, and both can be read back. Whatever else happens leaves the store as it was,
unless the server refuses the session, which gives up the one that was there before.
-/

namespace TeacherRegistry.Session

open Http (Hop finalStatus?)
open Json (Value depthLimit)
open TransportError (unauthorized)

/-- The last of these replies carries an object with these members, of which one is a token that is
not blank. -/
structure Grants (hops : List Hop) (members : List (String × Value)) (token : String) : Prop where
  received : ∃ hop response, hops.getLast? = some hop ∧
    Client.Carries Value.ofBytes? hop response (.object members)
  given : Dictionary.get? members Store.tokenKey = some (.string token)
  filled : Text.isBlank token = false

/-- A store after a token and a profile have been put there, of which the profile can be read back if
its numbers are whole. -/
structure Holds (before after : Store) (token : String) (profile : Value) : Prop where
  stored : after.get? Store.tokenKey = .ok (some token)
  loggedIn : isLoggedIn after = .ok true
  user : profile.Whole → user after = .ok (some profile)
  others : ∀ key, key ≠ Store.tokenKey → key ≠ Store.userKey →
    after.get? key = before.get? key

/-- What is known of opening a session, which begins in this world: it is opened if and only if the
server grants it and the store can be understood. -/
structure AllOrNothing (w : World) (result : Except Error Value × World) : Prop where
  opened : ∀ profile, result.1 = .ok profile →
    ∃ members token, Grants (result.2.since w).hops members token ∧
      profile = .object (Dictionary.erase Store.tokenKey members) ∧
      Holds w.store result.2.store token profile
  granted : ∀ members token entries, Grants (result.2.since w).hops members token →
    w.store.entries = .ok entries → ∃ profile, result.1 = .ok profile
  refused : ∀ e, result.1 = .error e →
    finalStatus? (result.2.since w).hops = some unauthorized →
      result.2.store.get? Store.tokenKey = .ok none ∧ result.2.store.get? Store.userKey = .ok none
  failed : ∀ e, result.1 = .error e →
    finalStatus? (result.2.since w).hops ≠ some unauthorized → result.2.store = w.store

variable {w : World}

/-! ### Keeping what the server said -/

theorem credentials?_eq_some {data : Option Value} {token : String} {profile : Value}
    (given : credentials? data = some (token, profile)) :
    ∃ members, data = some (.object members) ∧
      Dictionary.get? members Store.tokenKey = some (.string token) ∧
      Text.isBlank token = false ∧ profile = .object (Dictionary.erase Store.tokenKey members) := by
  unfold credentials? at given
  split at given
  next members =>
    split at given
    next held found =>
      split at given
      · cases given
      next filled =>
        cases given
        exact ⟨members, rfl, found, by simpa using filled, rfl⟩
    · cases given
  · cases given

theorem credentials?_of_given {members : List (String × Value)} {token : String}
    (given : Dictionary.get? members Store.tokenKey = some (.string token))
    (filled : Text.isBlank token = false) :
    credentials? (some (.object members)) =
      some (token, .object (Dictionary.erase Store.tokenKey members)) := by
  simp only [credentials?, given, filled, Bool.false_eq_true, if_false]

private theorem put_of_leaves {d : Dictionary String} {key value : String}
    (leaves : (w.store.set key value).Leaves d) :
    ∃ v, w.put key value = (.ok (), v) ∧ w.Silent v ∧ v.store.Serves ∧ v.store.entries = .ok d :=
  ⟨(w.put key value).2, Prod.ext leaves.outcome rfl, World.silent_apply w _, leaves.serves,
    leaves.entries⟩

/-- What the server said is kept if there is a token, and a store that can be understood. -/
theorem keep_of_readable {data : Option Value} {token : String} {profile : Value}
    (given : credentials? data = some (token, profile)) (serves : w.store.Serves)
    {d : Dictionary String} (readable : w.store.entries = .ok d) :
    (keep data w).1 = .ok profile ∧ w.Silent (keep data w).2 ∧ (keep data w).2.store.Serves ∧
      (keep data w).2.store.entries =
        .ok ((d.insert Store.tokenKey token).insert Store.userKey profile.text) := by
  -- once the first put has gone through, the second meets a store that can be understood
  obtain ⟨v, put, silent, serves', entries⟩ := put_of_leaves
    (Store.set_leaves serves readable Store.tokenKey token)
  obtain ⟨u, put', silent', serves'', entries'⟩ := put_of_leaves
    (Store.set_leaves serves' entries Store.userKey profile.text)
  have kept : keep data w = (.ok profile, u.log .sessionStored) := by
    simp only [keep, given, put, put']
  rw [kept]
  exact ⟨rfl, (silent.trans silent').trans (World.silent_log u _), serves'', entries'⟩

/-- Otherwise nothing is kept. -/
theorem keep_cases (data : Option Value) (w : World) :
    (∃ e, (keep data w).1 = .error e ∧ w.Silent (keep data w).2 ∧
      (keep data w).2.store = w.store ∧
      ∀ found entries, w.store.entries = .ok entries → credentials? data ≠ some found) ∨
    ∃ token profile, credentials? data = some (token, profile) ∧
      w.store.entries = .ok w.store.contents := by
  cases given : credentials? data with
  | none =>
    have same : keep data w = (.error .missingToken, w) := by simp only [keep, given]
    rw [same]
    refine Or.inl ⟨.missingToken, rfl, World.Silent.refl w, rfl, ?_⟩
    intro _ _ _ impossible
    cases impossible
  | some found =>
    obtain ⟨token, profile⟩ := found
    cases entries : w.store.entries with
    | ok d => exact Or.inr ⟨token, profile, rfl, by rw [Store.contents_of_entries entries]⟩
    | error e =>
      -- the first put fails, and the second is not tried
      have put : w.put Store.tokenKey token = (.error e, w.logAll []) := by
        rw [World.put, Store.set_of_error entries]
        rfl
      have same : keep data w = (.error (.store e), w.logAll []) := by
        simp only [keep, given, put]
      rw [same]
      refine Or.inl ⟨.store e, rfl, World.silent_logAll w [], rfl, ?_⟩
      intro _ _ readable
      cases readable

/-! ### Reading it back -/

private theorem fits_erase {room : Nat} {members : List (String × Value)}
    (fits : (Value.object members).Fits room) (key : String) :
    (Value.object (Dictionary.erase key members)).Fits room := by
  cases fits with
  | object room _ sorted each =>
    exact .object room _ (Dictionary.sorted_erase sorted key) fun entry member =>
      each entry (Dictionary.mem_of_mem_erase member)

/-- What is left of an object that was read can be read again. -/
private theorem fits_of_received {bytes : ByteArray} {members : List (String × Value)}
    (read : Value.ofBytes? bytes = some (.object members)) (key : String) :
    (Value.object (Dictionary.erase key members)).Fits depthLimit := by
  obtain ⟨document, _, read⟩ := Option.bind_eq_some_iff.mp read
  exact fits_erase (Value.fits_of_valueWithin? depthLimit document _ read) key

theorem holds_of_entries {before after : Store} {d : Dictionary String} {token : String}
    {profile : Value} (readable : before.entries = .ok d)
    (entries : after.entries =
      .ok ((d.insert Store.tokenKey token).insert Store.userKey profile.text))
    (filled : Text.isBlank token = false) (fits : profile.Fits depthLimit) :
    Holds before after token profile := by
  -- the profile was put last, so it is looked up first
  have look : ∀ key, after.get? key = .ok (if Store.userKey = key then some profile.text
      else if Store.tokenKey = key then some token else d.get? key) := by
    intro key
    rw [Store.get?_of_entries entries, Dictionary.get?_insert, Dictionary.get?_insert]
  have stored : after.get? Store.tokenKey = .ok (some token) := by
    rw [look, if_neg (by decide), if_pos rfl]
  refine ⟨stored, ?_, ?_, ?_⟩
  · rw [isLoggedIn, stored]
    simp [Except.map, filled]
  · intro whole
    have text : after.get? Store.userKey = .ok (some profile.text) := by
      rw [look, if_pos rfl]
    rw [user, text]
    simp only [fits.ofString?_text whole]
  · intro key notToken notUser
    rw [look, if_neg (Ne.symm notUser), if_neg (Ne.symm notToken), Store.get?_of_entries readable]

/-! ### Opening a session -/

/-- Once the server has answered, it is the token and the store that decide. -/
private theorem allOrNothing_of_answer {client : Client} {body : String} {url : Url}
    {answer : Answer Value} {v : World} {news : Journal}
    (proceeds : client.Proceeds Value.ofBytes? "POST" url (some body) w (.ok answer, v) news)
    (guarded : w.Guarded) : AllOrNothing w (keep answer.data v) := by
  have treats := proceeds.treats guarded
  have other := proceeds.not_refused
  have store : v.store = w.store := (treats.otherwise other).1
  have serves : v.store.Serves := treats.guarded.serves
  -- keeping the answer sends nothing, so the replies are those of the call
  have since : v.Silent (keep answer.data v).2 →
      ((keep answer.data v).2.since w).hops = news.hops := by
    intro ⟨said, grown, silent⟩
    have all : (keep answer.data v).2.journal = w.journal ++ (news ++ said) := by
      rw [grown, proceeds.grown, List.append_assoc]
    rw [World.since_eq all, Journal.hops_append, silent.hops, List.append_nil]
  rcases keep_cases answer.data v with ⟨e, error, silent, unchanged, lacking⟩ |
    ⟨token, profile, given, readable⟩
  · refine ⟨?_, ?_, ?_, fun _ _ _ => unchanged.trans store⟩
    · intro profile opened
      rw [error] at opened
      cases opened
    · intro members token entries grants readable
      rw [since silent] at grants
      rw [← store] at readable
      obtain ⟨_, same, data⟩ := (proceeds.data_iff (.object members)).mpr grants.received
      cases same
      rw [data] at lacking
      exact absurd (credentials?_of_given grants.given grants.filled) (lacking _ entries readable)
    · intro _ _ refusal
      rw [since silent] at refusal
      exact absurd refusal other
  · obtain ⟨opened, silent, _, entries⟩ := keep_of_readable given serves readable
    obtain ⟨members, data, found, filled, rest⟩ := credentials?_eq_some given
    have received := (proceeds.data_iff (.object members)).mp ⟨answer, rfl, data⟩
    refine ⟨?_, fun _ _ _ _ _ => ⟨profile, opened⟩, ?_, ?_⟩
    · intro result same
      rw [opened] at same
      cases same
      refine ⟨members, token, ⟨?_, found, filled⟩, rest, ?_⟩
      · rw [since silent]
        exact received
      -- what is left of the object was read off the reply, so it can be read again
      · obtain ⟨_, response, _, carries⟩ := received
        have fits := fits_of_received carries.holds Store.tokenKey
        rw [← rest] at fits
        rw [store] at readable
        exact holds_of_entries readable (store ▸ entries) filled fits
    · intro _ failed
      rw [opened] at failed
      cases failed
    · intro _ failed
      rw [opened] at failed
      cases failed

/-- A call that comes to nothing changes the store if the session is refused, and only then. -/
private theorem allOrNothing_of_error {client : Client} {body : String} {url : Url}
    {e : TransportError} {v : World} {news : Journal}
    (proceeds : client.Proceeds Value.ofBytes? "POST" url (some body) w (.error e, v) news)
    (guarded : w.Guarded) : AllOrNothing w (.error (.transport e), v) := by
  have treats := proceeds.treats guarded
  have since : v.since w = news := World.since_eq proceeds.grown
  refine ⟨nofun, ?_, ?_, ?_⟩
  · intro members _ _ grants _
    rw [since] at grants
    obtain ⟨_, impossible, _⟩ := (proceeds.data_iff (.object members)).mpr grants.received
    cases impossible
  · intro _ _ refusal
    rw [since] at refusal
    obtain ⟨token, user, _⟩ := Store.get?_of_given_up (treats.refusal refusal)
    exact ⟨token, user⟩
  · intro _ _ other
    rw [since] at other
    exact (treats.otherwise other).1

theorem open_allOrNothing (client : Client) (path body : String) (guarded : w.Guarded) :
    AllOrNothing w (open? client path body w) := by
  cases address : client.urlFor path with
  | error e =>
    have same : open? client path body w = (.error (.transport e), w) := by
      simp only [open?, Client.request, address]
    rw [same]
    -- no request, and so no last reply either
    refine ⟨nofun, ?_, ?_, fun _ _ _ => rfl⟩
    · intro _ _ _ grants _
      obtain ⟨_, _, last, _⟩ := grants.received
      rw [World.since_self] at last
      cases last
    · intro _ _ refusal
      rw [World.since_self] at refusal
      cases refusal
  | ok url =>
    obtain ⟨news, proceeds⟩ :=
      client.request_proceeds Value.ofBytes? "POST" (some body) w address
    unfold open?
    split
    next e v called =>
      rw [called] at proceeds
      exact allOrNothing_of_error proceeds guarded
    next answer v called =>
      rw [called] at proceeds
      exact allOrNothing_of_answer proceeds guarded

/-- The operation that a login is part of is seen in neither the journal nor the store. -/
private theorem AllOrNothing.within {span : Log.Span}
    {act : World → Except Error Value × World}
    (inside : AllOrNothing (w.enter span) (act (w.enter span))) :
    AllOrNothing w (within span act w) := by
  unfold Session.within
  generalize act (w.enter span) = result at inside ⊢
  obtain ⟨outcome, v⟩ := result
  exact ⟨inside.opened, inside.granted, inside.refused, inside.failed⟩

/-- Logging in, by name or as a guest, either stores the token and the profile that the server gave,
or leaves the store as it was; a refusal gives up the session that was there. -/
theorem login_allOrNothing (client : Client) (w : World) (stored : w.credentials = .stored)
    (serves : w.store.Serves) :
    (∀ username password, AllOrNothing w (login client username password w)) ∧
      AllOrNothing w (loginAsGuest client w) := by
  have guarded : ∀ span, (w.enter span).Guarded := fun _ => ⟨stored, serves⟩
  constructor
  · intro username password
    unfold login
    exact (open_allOrNothing client loginPath _ (guarded _)).within
  · unfold loginAsGuest
    exact (open_allOrNothing client guestPath _ (guarded _)).within

/-! ### A login that is granted -/

/-- The name in an object that holds nothing else. -/
def onlyName? : Value → Option String
  | .object [("name", .string name)] => some name
  | _ => none

theorem eq_of_onlyName? {v : Value} {name : String} (only : onlyName? v = some name) :
    v = .object [("name", .string name)] := by
  unfold onlyName? at only
  split at only
  · cases only
    rfl
  · cases only

/-- A session file with an old profile and something else, and a server that grants the next login. -/
def granting : World :=
  { farEnd := .script [.answer ⟨200, [], "\x7b\"token\":\"t\",\"name\":\"Ana\"\x7d".toUTF8⟩]
    store := .file "session.json"
      (Disk.sessionDisk "\x7b\"theme\":\"dark\",\"user\":\"old\"\x7d".toUTF8)
    credentials := .stored
    confirmation := .always true
    expiry := .ignored
    spans := []
    journal := [] }

theorem login_allOrNothing_granting :
    let client : Client := ⟨"http://127.0.0.1:8081/api", 10000, "/login", 0⟩
    let (result, w) := login client "ana" "secret" granting
    result = .ok (.object [("name", .string "Ana")]) ∧
      user w.store = .ok (some (.object [("name", .string "Ana")])) ∧
      w.store.get? "theme" = granting.store.get? "theme" := by
  intro client
  have granted : (login client "ana" "secret" granting).1.toOption.bind onlyName? = some "Ana" := by
    decide +kernel
  have whole : (Value.object [("name", .string "Ana")]).Whole :=
    .object _ fun entry member => by
      rw [List.mem_singleton.mp member]
      exact .string "Ana"
  obtain ⟨byName, _⟩ := login_allOrNothing client granting rfl (Disk.serves_sessionDisk _)
  have law := byName "ana" "secret"
  generalize login client "ana" "secret" granting = ended at granted law ⊢
  obtain ⟨result, w⟩ := ended
  cases result with
  | error e => cases granted
  | ok profile =>
    have same : profile = _ := eq_of_onlyName? granted
    obtain ⟨members, token, _, _, holds⟩ := law.opened profile rfl
    subst same
    exact ⟨rfl, holds.user whole, holds.others "theme" (by decide) (by decide)⟩

end TeacherRegistry.Session
