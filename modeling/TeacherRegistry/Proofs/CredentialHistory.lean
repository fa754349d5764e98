import TeacherRegistry.Proofs.CrampedPaths
import TeacherRegistry.Proofs.Login

/-!
# The credential is what its history makes of it

The history of a run is made of its calls and of what is done to the session besides. It can be
told from replies and results alone, without a look at the store. The token at any time is the one
that the run began with, as changed by what has happened since, and every call sends its first
request with the token of the moment. All this may fail for a store that can be read but not
written: a session in it cannot be given up.
-/

namespace TeacherRegistry

open Http (Hop finalStatus?)
open Json (Value)
open TransportError (unauthorized)

/-! ### Histories -/

/-- Something that a credential may depend on. -/
inductive Happening where
  | call (call : Call)
  /-- A text was stored as the token. -/
  | stored (text : String)
  /-- The token was removed from the store. -/
  | removed
  /-- The session was given up. -/
  | evicted

def Happening.hops : Happening → List Hop
  | .call made => made.news.hops
  | _ => []

/-- The token after something has happened. -/
def Credentials.after (credentials : Credentials) (token : Option String) :
    Happening → Option String
  | .call call => if finalStatus? call.news.hops = some unauthorized then none else token
  | .stored text => if credentials.isStored then tokenOf text else token
  | .removed => if credentials.isStored then none else token
  | .evicted => none

/-- The token of a world after a history. -/
def World.tokenAfter (w : World) (history : List Happening) : Option String :=
  history.foldl w.credentials.after w.token.1

/-- The token in the last of these replies. -/
def grantedToken? (hops : List Hop) : Option String :=
  hops.getLast?.bind fun hop =>
    match hop.reply with
    | .answer response => (Session.credentials? (Value.ofBytes? response.body)).map Prod.fst
    | _ => none

namespace Desk

/-- What an action does to the session when its calls are over. -/
def ending (desk : Desk) (action : Action) : List Happening :=
  match action with
  | .login .. | .loginAsGuest =>
    match (desk.act action).1 with
    | .ok _ => (grantedToken? ((desk.calls action).flatMap fun call =>
        call.news.hops)).toList.map .stored
    | .error _ => []
  | .storeSet key value =>
    match (desk.act action).1 with
    | .ok _ => if key = Store.tokenKey then [.stored value] else []
    | .error _ => []
  | .storeRemove key => if key = Store.tokenKey then [.removed] else []
  | .logout => [.removed]
  | .evict => [.evicted]
  | _ => []

def history (desk : Desk) : List Step → List Happening
  | [] => []
  | step :: rest =>
    let met := desk.meets step.farEnd
    (met.calls step.action).map .call ++ met.ending step.action ++ (desk.take step).2.history rest

end Desk

/-- Whether a session is over with this, wherever its token is kept. -/
def Happening.endsSession : Happening → Bool
  | .call made => finalStatus? made.news.hops = some unauthorized
  | .evicted => true
  | _ => false

/-- The first request of a call carries the token, if it may stand in a header, and else nothing. -/
def Call.Carries (call : Call) (token : Option String) : Prop :=
  ∀ request, call.news.requests.head? = some request → request.authorization = bearer? token

/-- What is true of a history that leads from one world to another. -/
structure World.Follows (u : World) (history : List Happening) (v : World) : Prop where
  handsOn : u.HandsOn v (u.tokenAfter history)
  calls : ∀ earlier call later, history = earlier ++ .call call :: later →
    call.before.token.1 = u.tokenAfter earlier ∧ call.Carries (u.tokenAfter earlier)

namespace World

variable {u v w : World} {token : Option String} {earlier later history : List Happening}

theorem HandsOn.after_eq (handsOn : u.HandsOn v token) :
    v.credentials.after = u.credentials.after := by
  funext token happening
  unfold Credentials.after
  rw [handsOn.isStored]

theorem HandsOn.tokenAfter_append (handsOn : u.HandsOn v (u.tokenAfter earlier)) :
    u.tokenAfter (earlier ++ later) = v.tokenAfter later := by
  rw [tokenAfter, List.foldl_append, ← tokenAfter, ← handsOn.token, ← handsOn.after_eq]
  rfl

/-- A history without calls is known by the token that it leaves. -/
theorem Follows.of_handsOn (handsOn : u.HandsOn v (u.tokenAfter history))
    (silent : ∀ call, .call call ∉ history) : u.Follows history v := by
  refine ⟨handsOn, ?_⟩
  intro earlier call later split
  have among : .call call ∈ history := by
    rw [split]
    exact List.mem_append_right _ List.mem_cons_self
  exact absurd among (silent call)

theorem Follows.of_alike (serves : u.Serves) (alike : u.Alike v) : u.Follows [] v :=
  .of_handsOn (.of_alike serves alike) fun _ => List.not_mem_nil

theorem Follows.trans (first : u.Follows earlier v) (second : v.Follows later w) :
    u.Follows (earlier ++ later) w := by
  have carried : ∀ rest, u.tokenAfter (earlier ++ rest) = v.tokenAfter rest :=
    fun rest => first.handsOn.tokenAfter_append
  refine ⟨?_, ?_⟩
  · rw [carried]
    exact first.handsOn.trans second.handsOn
  · intro before call after split
    rcases List.append_eq_append_iff.mp split with ⟨between, rfl, rest⟩ | ⟨between, whole, rest⟩
    -- the call is in the second part, or at its very beginning, or in the first
    · rw [carried]
      exact second.calls between call after rest
    · cases between with
      | nil =>
        rw [List.append_nil] at whole
        have begins := second.calls [] call after rest.symm
        rw [← carried, List.append_nil, whole] at begins
        exact begins
      | cons head between =>
        obtain ⟨rfl, _⟩ := List.cons.inj rest
        exact first.calls before call between whole

end World

/-! ### Calls -/

theorem Calling.follows {client : Client} {base : Url} {u w : World} {calls : List Call}
    (calling : Calling client u calls w) (bound : Url.parse client.baseUrl = .ok base)
    (username : base.username = []) (password : base.password = []) (serves : u.Serves) :
    u.Follows (calls.map .call) w := by
  induction calling with
  | rest quiet => exact .of_alike serves quiet.alike
  | @call α decode method path body u v w calls quiet _ ih =>
    have reached := World.Follows.of_alike serves quiet.alike
    have left := Call.handsOn client decode method path body reached.handsOn.serves
    have made : v.Follows [.call (.of client decode method path body v)]
        (client.request decode method path body v).2 := by
      refine ⟨left, ?_⟩
      intro earlier call later split
      -- nothing has happened before this call
      cases earlier with
      | nil =>
        cases split
        exact ⟨rfl, fun request first => Call.authorization_first bound username password first⟩
      | cons head earlier => cases earlier <;> cases split
    exact reached.trans (made.trans (ih made.handsOn.serves))

/-! ### The session -/

namespace World

variable {w : World}

theorem follows_evict (serves : w.Serves) : w.Follows [.evicted] w.evict :=
  .of_handsOn (handsOn_evict serves) (by simp)

theorem follows_remove (serves : w.Serves) : w.Follows [.removed] (w.remove Store.tokenKey).2 := by
  refine .of_handsOn ?_ (by simp)
  have handed := handsOn_remove serves Store.tokenKey
  simp only [and_true] at handed
  exact handed

end World

namespace Session

variable {w : World}

theorem follows_logout (serves : w.Serves) : w.Follows [.removed] (logout w).2 := by
  have first := World.follows_remove serves
  unfold logout
  split
  next e v removed =>
    rw [removed] at first
    exact first
  next v removed =>
    rw [removed] at first
    -- removing the profile as well leaves the token as it is
    have second := World.handsOn_remove first.handsOn.serves Store.userKey
    rw [if_neg (fun both => absurd both.2 (by decide))] at second
    have rest : v.Follows [] (v.remove Store.userKey).2 := .of_handsOn second (by simp)
    split
    next e u removed' =>
      rw [removed'] at rest
      exact first.trans rest
    next u removed' =>
      rw [removed'] at rest
      exact first.trans (rest.trans
        (.of_alike rest.handsOn.serves (World.alike_log u .sessionCleared)))

theorem credentials_keep (data : Option Value) (w : World) :
    (keep data w).2.credentials = w.credentials := by
  have putting : ∀ (w : World) (key value : String),
      (w.put key value).2.credentials = w.credentials := fun _ _ _ => rfl
  unfold keep
  split
  · rfl
  next token profile _ =>
    have first := putting w Store.tokenKey token
    split
    next e v put =>
      rw [put] at first
      exact first
    next v put =>
      rw [put] at first
      have second := putting v Store.userKey profile.text
      split
      next e u put' =>
        rw [put'] at second
        exact second.trans first
      next u put' =>
        rw [put'] at second
        exact second.trans first

theorem follows_keep (data : Option Value) (serves : w.Serves) :
    (∀ profile, (keep data w).1 = .ok profile →
      ∃ token, (credentials? data).map Prod.fst = some token ∧
        w.Follows [.stored token] (keep data w).2) ∧
    ∀ e, (keep data w).1 = .error e → w.Follows [] (keep data w).2 := by
  cases kept : w.credentials with
  | fixed given =>
    have handed := World.HandsOn.of_fixed kept (credentials_keep data w)
    refine ⟨?_, fun e _ => .of_handsOn handed (by simp)⟩
    intro profile opened
    cases held : credentials? data with
    | none =>
      simp only [keep, held] at opened
      cases opened
    | some found =>
      refine ⟨found.1, rfl, .of_handsOn ?_ (by simp)⟩
      -- where the token is given for the run, what is stored does not count
      simp only [World.tokenAfter, List.foldl_cons, List.foldl_nil, Credentials.after, kept,
        Credentials.isStored, Bool.false_eq_true, if_false]
      exact handed
  | stored =>
    rcases keep_cases data w with ⟨e, error, _, same, _⟩ | ⟨token, profile, given, readable⟩
    · refine ⟨?_, fun _ _ => .of_handsOn (.of_same serves same (credentials_keep data w)) (by simp)⟩
      intro profile opened
      rw [error] at opened
      cases opened
    · have usable := serves.of_readable kept readable
      obtain ⟨opened, _, serves', entries⟩ := keep_of_readable given usable readable
      refine ⟨?_, ?_⟩
      · intro _ _
        have after : (keep data w).2.Guarded := ⟨(credentials_keep data w).trans kept, serves'⟩
        have handed := after.handsOn kept entries
        rw [Dictionary.get?_insert, if_neg (by decide), Dictionary.get?_insert, if_pos rfl] at handed
        refine ⟨token, by rw [given]; rfl, .of_handsOn ?_ (by simp)⟩
        simp only [World.tokenAfter, List.foldl_cons, List.foldl_nil, Credentials.after, kept,
          Credentials.isStored, if_true]
        exact handed
      · intro _ failed
        rw [opened] at failed
        cases failed

variable {client : Client} {base : Url}

theorem grantedToken?_of_answered {method path : String} {body : Option String} {v : World}
    {answer : Answer Value} {token : String}
    (called : client.request Value.ofBytes? method path body w = (.ok answer, v))
    (given : (credentials? answer.data).map Prod.fst = some token) :
    grantedToken? (Call.of client Value.ofBytes? method path body w).news.hops = some token := by
  cases address : client.urlFor path with
  | error e =>
    simp only [Client.request, address] at called
    cases called
  | ok url =>
    obtain ⟨news, proceeds⟩ := client.request_proceeds Value.ofBytes? method body w address
    have same : (Call.of client Value.ofBytes? method path body w).news = news :=
      World.since_eq proceeds.grown
    rw [called] at proceeds
    cases data : answer.data with
    | none =>
      rw [data] at given
      cases given
    | some held =>
      obtain ⟨hop, response, last, carries⟩ := (proceeds.data_iff held).mp ⟨answer, rfl, data⟩
      rw [grantedToken?, same, last, Option.bind_some, carries.reply]
      simp only [carries.holds]
      rw [← data]
      exact given

/-- Opening a session is a call, and the token that it granted is stored if the session is opened. -/
theorem follows_opening (bound : Url.parse client.baseUrl = .ok base)
    (username : base.username = []) (password : base.password = []) (serves : w.Serves)
    (span : Log.Span) (path body : String) :
    let call := openingCall client span path body w
    let result := within span (open? client path body) w
    (∀ profile, result.1 = .ok profile →
      ∃ token, grantedToken? call.news.hops = some token ∧
        w.Follows ([.call call] ++ [.stored token]) result.2) ∧
      ∀ e, result.1 = .error e → w.Follows [.call call] result.2 := by
  intro call result
  have enters := (World.Quiet.refl w).enter span
  have calling : Calling client w [call] call.after :=
    .call Value.ofBytes? "POST" path (some body) enters (.rest (.refl _))
  have made := calling.follows bound username password serves
  -- the operation that the call is part of ends after everything else
  have left : ∀ {history : List Happening} {v : World}, w.Follows history v →
      w.Follows history v.leave := by
    intro history v follows
    have leaves := World.Follows.of_alike follows.handsOn.serves ((World.Quiet.refl v).leave).alike
    have whole := follows.trans leaves
    rw [List.append_nil] at whole
    exact whole
  have opens : result = ((open? client path body (w.enter span)).1,
      (open? client path body (w.enter span)).2.leave) := rfl
  cases called : client.request Value.ofBytes? "POST" path (some body) (w.enter span) with
  | mk outcome v =>
    have after : call.after = v := congrArg Prod.snd called
    rw [after] at made
    cases outcome with
    | error e =>
      have opened : open? client path body (w.enter span) = (.error (.transport e), v) := by
        rw [open?, called]
      rw [opens, opened]
      refine ⟨?_, fun _ _ => left made⟩
      intro profile succeeded
      cases succeeded
    | ok answer =>
      have opened : open? client path body (w.enter span) = keep answer.data v := by
        rw [open?, called]
      obtain ⟨kept, failed⟩ := follows_keep answer.data made.handsOn.serves
      rw [opens, opened]
      refine ⟨?_, ?_⟩
      · intro profile succeeded
        obtain ⟨token, given, follows⟩ := kept profile succeeded
        exact ⟨token, grantedToken?_of_answered called given, left (made.trans follows)⟩
      · intro e error
        exact left (made.trans (failed e error))

end Session

/-! ### Runs -/

namespace Desk

variable {base : Url}

theorem ending_of_other (desk : Desk) {action : Action} (other : action.isOfSession = false) :
    desk.ending action = [] := by
  cases action with
  | login | loginAsGuest | logout | storeSet | storeRemove | evict => cases other
  | _ => rfl

theorem silent_ending (desk : Desk) (action : Action) :
    ∀ happening ∈ desk.ending action, happening.hops = [] := by
  intro happening among
  unfold ending at among
  repeat' split at among
  -- a token that was granted, something else that is done to the session, or nothing
  all_goals first
    | obtain ⟨token, _, rfl⟩ := List.mem_map.mp among; rfl
    | rw [List.mem_singleton.mp among]; rfl
    | cases among

private theorem follows_storeSet (desk : Desk) (serves : desk.world.Serves) (key value : String) :
    desk.world.Follows (desk.ending (.storeSet key value)) (desk.world.put key value).2 := by
  obtain ⟨done, failed⟩ := World.handsOn_put serves key value
  unfold ending
  cases result : (desk.world.put key value).1 with
  | error e =>
    have acted : (desk.act (.storeSet key value)).1 = .error (.store e) := by
      simp only [act, ofWorld, result]
      rfl
    simp only [acted]
    exact .of_handsOn (failed e result) (by simp)
  | ok _ =>
    have acted : (desk.act (.storeSet key value)).1 = .ok .done := by
      simp only [act, ofWorld, result]
      rfl
    have handed := done result
    simp only [acted]
    by_cases named : key = Store.tokenKey
    · simp only [named, and_true] at handed
      simp only [named, if_true]
      exact .of_handsOn handed (by simp)
    · rw [if_neg (fun both => named both.2)] at handed
      rw [if_neg named]
      exact .of_handsOn handed (by simp)

private theorem follows_storeRemove (desk : Desk) (serves : desk.world.Serves) (key : String) :
    desk.world.Follows (desk.ending (.storeRemove key)) (desk.world.remove key).2 := by
  unfold ending
  simp only
  by_cases named : key = Store.tokenKey
  · rw [if_pos named, named]
    exact World.follows_remove serves
  · have handed := World.handsOn_remove serves key
    rw [if_neg (fun both => named both.2)] at handed
    rw [if_neg named]
    exact .of_handsOn handed (by simp)

section

variable (desk : Desk) (bound : Url.parse desk.client.baseUrl = .ok base)
  (username : base.username = []) (password : base.password = []) (serves : desk.world.Serves)

include bound username password serves

/-- Both ways to log in open a session, and come to the same. -/
private theorem follows_login {action : Action} {span : Log.Span} {path body : String}
    (calls : desk.calls action = [Session.openingCall desk.client span path body desk.world])
    (acts : desk.act action = desk.ofWorld
      (Session.within span (Session.open? desk.client path body) desk.world) .session
      fun profile => .text (some profile.text))
    (ends : desk.ending action = match (desk.act action).1 with
      | .ok _ => (grantedToken? ((desk.calls action).flatMap fun call =>
          call.news.hops)).toList.map .stored
      | .error _ => []) :
    desk.world.Follows ((desk.calls action).map .call ++ desk.ending action)
      (desk.act action).2.world := by
  obtain ⟨opened, failed⟩ :=
    Session.follows_opening bound username password serves span path body
  rw [ends, acts, calls, world_ofWorld]
  cases result : (Session.within span (Session.open? desk.client path body) desk.world).1 with
  | ok profile =>
    obtain ⟨token, granted, follows⟩ := opened profile result
    simp only [ofWorld, result, List.flatMap_cons, List.flatMap_nil, List.append_nil, granted]
    exact follows
  | error e =>
    simp only [ofWorld, result]
    exact failed e result

theorem follows_act (action : Action) :
    desk.world.Follows ((desk.calls action).map .call ++ desk.ending action)
      (desk.act action).2.world := by
  cases session : action.isOfSession with
  | false =>
    -- whatever happens to the credential happens in a call
    rw [ending_of_other desk session, List.append_nil]
    exact (calling_act desk session).follows bound username password serves
  | true =>
    cases action with
    | login | loginAsGuest => exact follows_login desk bound username password serves rfl rfl rfl
    | logout => exact Session.follows_logout serves
    | storeSet key value => exact desk.follows_storeSet serves key value
    | storeRemove key => exact desk.follows_storeRemove serves key
    | evict => exact World.follows_evict serves
    | _ => cases session

theorem follows_run (steps : List Step) :
    desk.world.Follows (desk.history steps) (desk.run steps).world := by
  induction steps generalizing desk with
  | nil => exact .of_alike serves (.refl desk.world)
  | cons step rest ih =>
    -- another far end may be reached in another way, but that bears on no credential
    have met : desk.world.Follows [] (desk.meets step.farEnd).world :=
      .of_handsOn (.of_same serves rfl rfl) (by simp)
    have acted := follows_act (desk.meets step.farEnd) bound username password
      met.handsOn.serves step.action
    have same : (desk.take step).2.client = desk.client :=
      client_act (desk.meets step.farEnd) step.action
    have later := ih (desk.take step).2 (same ▸ bound) acted.handsOn.serves
    rw [run_cons]
    exact met.trans (acted.trans later)

end

theorem hops_history (desk : Desk) (steps : List Step) :
    ((desk.run steps).world.since desk.world).hops =
      (desk.history steps).flatMap Happening.hops := by
  induction steps generalizing desk with
  | nil =>
    have silent : (desk.world.since desk.world).hops = [] := (World.Silent.refl _).hops_since
    exact silent
  | cons step rest ih =>
    have silent := List.flatMap_eq_nil_iff.mpr (silent_ending (desk.meets step.farEnd) step.action)
    rw [hops_run_cons, ih, history, List.flatMap_append, List.flatMap_append, List.flatMap_map,
      silent, List.append_nil]
    rfl

/-- The credential in a run is what its history makes of it: the calls of the history make all
requests of the run, and each of them goes by the token that what came before it has left. -/
structure GoesByHistory (desk : Desk) (steps : List Step) : Prop where
  hops : ((desk.run steps).world.since desk.world).hops =
    (desk.history steps).flatMap Happening.hops
  token : (desk.run steps).world.token.1 = desk.world.tokenAfter (desk.history steps)
  calls : ∀ earlier call later, desk.history steps = earlier ++ .call call :: later →
    call.before.token.1 = desk.world.tokenAfter earlier ∧
      call.Carries (desk.world.tokenAfter earlier)

end Desk

theorem Credentials.after_fixed {given token : Option String} (happening : Happening) :
    (Credentials.fixed given).after token happening =
      if happening.endsSession then none else token := by
  cases happening with
  | call made => simp [after, Happening.endsSession]
  | _ => rfl

/-- A token that is given for the run is gone with the first refusal, and never comes back. -/
theorem World.tokenAfter_fixed {w : World} {given : Option String}
    (fixed : w.credentials = .fixed given) (history : List Happening) :
    w.tokenAfter history = if history.any Happening.endsSession then none else given := by
  have folds : ∀ token, history.foldl (Credentials.fixed given).after token =
      if history.any Happening.endsSession then none else token := by
    intro token
    induction history generalizing token with
    | nil => rfl
    | cons happening rest ih =>
      rw [List.foldl_cons, Credentials.after_fixed, ih, List.any_cons]
      cases happening.endsSession <;> simp
  have start : w.token.1 = given := by rw [World.token, fixed]
  rw [tokenAfter, start, fixed, folds]

/-- In every run of a desk whose address carries no credentials the credential goes by the history,
unless the token is kept in a store that can be read but not written. -/
theorem Desk.headers_follow_history (desk : Desk) (steps : List Desk.Step) {base : Url}
    (bound : Url.parse desk.client.baseUrl = .ok base) (username : base.username = [])
    (password : base.password = [])
    (serves : desk.world.credentials = .stored →
      desk.world.store.entries = .error .unreadable ∨ desk.world.store.Serves) :
    desk.GoesByHistory steps ∧
      ∀ given, desk.world.credentials = .fixed given → ∀ history,
        desk.world.tokenAfter history =
          if history.any Happening.endsSession then none else given := by
  have follows := desk.follows_run bound username password serves steps
  exact ⟨⟨desk.hops_history steps, follows.handsOn.token, follows.calls⟩,
    fun _ fixed => World.tokenAfter_fixed fixed⟩

/-- A desk with a stale token, at which the operator logs in and is refused later on. -/
def Desk.renewed : Desk :=
  .initial ⟨"http://127.0.0.1:8081/api", 10000, "/login", 0⟩
    { farEnd := .unreachable
      store := .file "session.json" (Disk.sessionDisk "\x7b\"token\":\"old\"\x7d".toUTF8)
      credentials := .stored
      confirmation := .always true
      expiry := .redirected
      spans := []
      journal := [] }

theorem Desk.bound_renewed : ∃ base, Url.parse Desk.renewed.client.baseUrl = .ok base ∧
    base.username = [] ∧ base.password = [] := by
  have parsed : (Url.parse Desk.renewed.client.baseUrl).toOption.map
      (fun base => (base.username, base.password)) = some ([], []) := by decide +kernel
  obtain ⟨base, bound, bare⟩ := Option.map_eq_some_iff.mp parsed
  cases found : Url.parse Desk.renewed.client.baseUrl with
  | error e =>
    rw [found] at bound
    cases bound
  | ok url =>
    rw [found] at bound
    cases bound
    exact ⟨base, rfl, Prod.mk.inj bare⟩

theorem Desk.headers_follow_history_renewed :
    let steps : List Desk.Step := [
      ⟨.script [.answer ⟨200, [], "\x7b\"token\":\"new\"\x7d".toUTF8⟩], .login "ana" "secret"⟩,
      ⟨.script [.answer ⟨401, [], .empty⟩], .load⟩,
      ⟨.script [.answer ⟨200, [], "[]".toUTF8⟩], .load⟩]
    Desk.renewed.GoesByHistory steps ∧
      ((Desk.renewed.run steps).world.since Desk.renewed.world).requests.map
        (·.authorization) = [some "Bearer old", some "Bearer new", none] := by
  intro steps
  obtain ⟨base, bound, username, password⟩ := Desk.bound_renewed
  have serves := Disk.serves_sessionDisk "\x7b\"token\":\"old\"\x7d".toUTF8
  exact ⟨(Desk.renewed.headers_follow_history steps bound username password
    fun _ => Or.inr serves).1,
    by decide +kernel⟩

/-! ### A session that cannot be given up -/

/-- A desk whose session file is reached by detours. -/
def Desk.detouring (n : Nat) : Desk :=
  { Desk.renewed with world := { Desk.renewed.world with
      store := .file (Disk.detourPath n) (Disk.detourDisk "\x7b\"token\":\"t\"\x7d".toUTF8) } }

theorem Desk.token_detouring {n : Nat} (short : 5 * n + 1 < Disk.pathLimit) :
    (Desk.detouring n).world.token.1 = some "t" := by
  have entries := Store.entries_content
    (Disk.read_detourPath "\x7b\"token\":\"t\"\x7d".toUTF8 short)
  have held : Store.decode? "\x7b\"token\":\"t\"\x7d".toUTF8 = some [("token", "t")] := by
    decide +kernel
  rw [held, Option.elim_some] at entries
  have found : (Desk.detouring n).world.store.get? Store.tokenKey = .ok (some "t") :=
    Store.get?_of_entries entries Store.tokenKey
  have stored : (Desk.detouring n).world.credentials = .stored := rfl
  rw [World.token, stored]
  simp only [found]
  decide

/-- A load that comes after the session was given up. -/
def Desk.loadAfterEviction (desk : Desk) : Call :=
  Controller.loadingCall desk.client
    ({ desk.world.evict with farEnd := .script [.answer ⟨200, [], "[]".toUTF8⟩] }.enter .load)

/-- On a path that leaves no room for writing the token outlives the session. -/
theorem Desk.before_loadAfterEviction {n : Nat} (short : 5 * (n + 1) + 1 < Disk.pathLimit)
    (long : Disk.pathLimit ≤ 5 * n + 21) :
    (Desk.detouring (n + 1)).loadAfterEviction.before.token.1 = some "t" := by
  have cramped := Disk.cramped_detourPath "\x7b\"token\":\"t\"\x7d".toUTF8 long
  have kept : (Desk.detouring (n + 1)).world.evict.token.1 = some "t" := by
    rw [World.token_of_cramped rfl rfl cramped, Desk.token_detouring short]
  rw [← kept]
  exact World.token_of_same rfl rfl

theorem Desk.request_loadAfterEviction {n : Nat} (short : 5 * (n + 1) + 1 < Disk.pathLimit)
    (long : Disk.pathLimit ≤ 5 * n + 21) :
    ∃ request, (Desk.detouring (n + 1)).loadAfterEviction.news.requests.head? = some request ∧
      request.authorization = some "Bearer t" := by
  obtain ⟨base, bound, username, password⟩ := Desk.bound_renewed
  have addressed : (Desk.renewed.client.urlFor Controller.listPath).toOption.any (fun url =>
      (Http.Request.to "GET" url none).reaches (.script [])) = true := by decide +kernel
  have first : (Desk.detouring (n + 1)).loadAfterEviction.news.requests.head? =
      Desk.renewed.client.firstRequest? "GET" Controller.listPath none
        (Desk.detouring (n + 1)).loadAfterEviction.before :=
    Call.head?_requests
  cases address : Desk.renewed.client.urlFor Controller.listPath with
  | error e =>
    rw [address] at addressed
    cases addressed
  | ok url =>
    rw [address] at addressed
    have arrives : (Http.Request.to "GET" url none).reaches
        (Desk.detouring (n + 1)).loadAfterEviction.before.farEnd = true := addressed
    rw [Client.firstRequest?, address, Except.toOption, Option.bind_some, if_pos arrives] at first
    have sent : (Client.authorize (Http.Request.to "GET" url none)
        (Desk.detouring (n + 1)).loadAfterEviction.before).1.authorization =
          bearer? (Desk.detouring (n + 1)).loadAfterEviction.before.token.1 :=
      Call.authorization_first bound username password first
    rw [Desk.before_loadAfterEviction short long] at sent
    exact ⟨_, first, sent⟩

theorem Desk.leaves_history_detouring {n : Nat} (short : 5 * (n + 1) + 1 < Disk.pathLimit)
    (long : Disk.pathLimit ≤ 5 * n + 21) :
    ¬ ∀ steps, (Desk.detouring (n + 1)).GoesByHistory steps := by
  intro law
  have told := (law [⟨.unreachable, .evict⟩,
    ⟨.script [.answer ⟨200, [], "[]".toUTF8⟩], .load⟩]).calls [.evicted]
      (Desk.detouring (n + 1)).loadAfterEviction [] rfl
  -- by its history there is no token any more, but the load has sent one
  have none : (Desk.detouring (n + 1)).world.tokenAfter [.evicted] = none := rfl
  obtain ⟨request, first, carried⟩ := Desk.request_loadAfterEviction short long
  have bare := told.2 request first
  rw [none, carried] at bare
  cases bare

/-- The file can be read, but a session that is in it cannot be given up. -/
theorem Desk.not_goesByHistory_detouring :
    (∃ base, Url.parse (Desk.detouring 818).client.baseUrl = .ok base ∧ base.username = [] ∧
      base.password = []) ∧
    (∃ request, (Desk.detouring 818).loadAfterEviction.news.requests.head? = some request ∧
      request.authorization = some "Bearer t") ∧
    ¬ ∀ steps, (Desk.detouring 818).GoesByHistory steps := by
  have short : 5 * (817 + 1) + 1 < Disk.pathLimit := by decide
  have long : Disk.pathLimit ≤ 5 * 817 + 21 := by decide
  exact ⟨Desk.bound_renewed, Desk.request_loadAfterEviction short long,
    Desk.leaves_history_detouring short long⟩

end TeacherRegistry
