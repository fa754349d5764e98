import TeacherRegistry.Proofs.FirstRequests

/-!
# How calls end

What comes of a call is decided by one response, the last one that arrives in full and redirects no
further. Without such a response there is a failure of the network; with one, its status tells
whether the session or the request was refused, and if neither was, its body is read. These ends
exclude one another, and there are no others. A request is made whenever the address can be requested
and the far end be reached.
-/

namespace TeacherRegistry

open TransportError (unauthorized)

namespace Http

/-- The response of an outcome, if it is there in full. -/
def Outcome.complete? : Outcome → Option Response
  | .received _ response true => some response
  | _ => none

/-- The response that requests with their replies end with: that of the last reply, if it is there
in full and redirects no further. -/
def finalResponse? (hops : List Hop) : Option Response :=
  hops.getLast?.bind fun hop =>
    match hop.turn with
    | .ended outcome => outcome.complete?
    | .redirected _ => none

theorem Ends.complete?_eq {hops : List Hop} {outcome : Outcome} (ends : Ends hops outcome) :
    outcome.complete? = finalResponse? hops := by
  unfold Ends at ends
  unfold finalResponse?
  cases last : hops.getLast? with
  | none =>
    rw [last] at ends
    obtain ⟨failure, rfl⟩ := ends
    rfl
  | some hop =>
    rw [last] at ends
    simp only [Option.bind_some]
    cases turn : hop.turn with
    | ended final =>
      simp only [turn] at ends
      rw [ends]
    | redirected next =>
      -- a redirection that is not followed is a failure
      simp only [turn] at ends
      obtain ⟨failure, rfl⟩ := ends
      rfl

theorem finalStatus?_of_finalResponse {hops : List Hop} {response : Response}
    (final : finalResponse? hops = some response) : finalStatus? hops = some response.status := by
  obtain ⟨hop, last, arrived⟩ := Option.bind_eq_some_iff.mp final
  rw [finalStatus?, last, Option.bind_some]
  cases turn : hop.turn with
  | redirected next =>
    rw [turn] at arrived
    cases arrived
  | ended outcome =>
    simp only [turn] at arrived
    unfold Outcome.complete? at arrived
    split at arrived
    · cases arrived
      exact status_of_received turn
    · cases arrived

namespace Response

theorem isSuccess_iff (response : Response) :
    response.isSuccess = true ↔ 200 ≤ response.status ∧ response.status < 300 := by
  simp [isSuccess]

/-- The first content type is legible, and does not speak of JSON in any case of letters. -/
def NamesNoJson (response : Response) : Prop :=
  ∃ value, response.header? "content-type" = some value ∧
    (∀ c ∈ value.toList, c = '\t' ∨ (0x20 ≤ c.toNat ∧ c.toNat < 0x7F)) ∧
    ∀ before word after, value.toList = before ++ word ++ after →
      word.map Char.toLower ≠ "json".toList

/-- There is no JSON in a response: its body is blank, or it says that it is something else. -/
def HoldsNoJson (response : Response) : Prop :=
  (∀ b ∈ response.body.toList, b ∈ [0x20, 0x09, 0x0A, 0x0C, 0x0D]) ∨ response.NamesNoJson

end Response

end Http

namespace Text

/-- A word without capital letters is found in a text whose capitals are made small if and only if
it is written there in some case of letters. -/
theorem contains_asciiLower_iff (s needle : String) :
    contains (asciiLower s) needle = true ↔
      ∃ before word after, s.toList = before ++ word ++ after ∧
        word.map Char.toLower = needle.toList := by
  rw [contains, occursIn_iff, asciiLower, String.toList_ofList]
  constructor
  · rintro ⟨before, after, same⟩
    obtain ⟨front, back, split, lowered, _⟩ := List.map_eq_append_iff.mp same
    obtain ⟨start, word, rfl, _, small⟩ := List.map_eq_append_iff.mp lowered
    exact ⟨start, word, back, split, small⟩
  · rintro ⟨before, word, after, same, small⟩
    exact ⟨before.map Char.toLower, after.map Char.toLower, by
      rw [same, List.map_append, List.map_append, small]⟩

theorem isBlank_append_of_left {s : String} (filled : isBlank s = false) (t : String) :
    isBlank (s ++ t) = false := by
  rw [isBlank, String.toList_append, List.all_append, ← isBlank, filled, Bool.false_and]

end Text

namespace Client

open Http (Outcome Response finalResponse?)

variable {α : Type} {decode : ByteArray → Option α}

/-! ### Reading a body -/

theorem isAsciiBlank_iff (b : UInt8) :
    isAsciiBlank b = true ↔ b ∈ [0x20, 0x09, 0x0A, 0x0C, 0x0D] := by
  simp [isAsciiBlank, or_assoc]

theorem claimsJson_eq_false_iff (response : Response) :
    claimsJson response = false ↔ response.NamesNoJson := by
  unfold claimsJson Response.NamesNoJson
  cases response.header? "content-type" with
  | none => simp
  | some value =>
    have legible : (value.toList.all fun c => c == '\t' || (0x20 ≤ c.toNat && c.toNat < 0x7F)) =
        true ↔ ∀ c ∈ value.toList, c = '\t' ∨ (0x20 ≤ c.toNat ∧ c.toNat < 0x7F) := by
      simp
    simp only [Option.some.injEq, exists_eq_left', ← legible]
    split
    next clear =>
      rw [← Bool.not_eq_true, Text.contains_asciiLower_iff]
      simp [clear]
    next obscure => simp [obscure]

theorem holdsNoJson_iff (response : Response) :
    response.HoldsNoJson ↔
      response.body.toList.all isAsciiBlank = true ∨ claimsJson response = false := by
  rw [claimsJson_eq_false_iff, List.all_eq_true]
  simp only [isAsciiBlank_iff, Response.HoldsNoJson]

/-- A body is read if there is JSON in the response. -/
theorem readBody_cases (decode : ByteArray → Option α) (response : Response) :
    (response.HoldsNoJson ∧ readBody decode response = .ok none) ∨
    (¬ response.HoldsNoJson ∧ ∃ data, decode response.body = some data ∧
      readBody decode response = .ok (some data)) ∨
    (¬ response.HoldsNoJson ∧ decode response.body = none ∧
      ∃ detail, readBody decode response = .error (.decode detail)) := by
  have nothing : (response.body.toList.all isAsciiBlank || !claimsJson response) = true ↔
      response.HoldsNoJson := by
    rw [Bool.or_eq_true, Bool.not_eq_true', holdsNoJson_iff]
  unfold readBody
  split
  next none => exact Or.inl ⟨nothing.mp none, rfl⟩
  next json =>
    rw [nothing] at json
    split
    next data holds => exact Or.inr (Or.inl ⟨json, data, holds, rfl⟩)
    next fails => exact Or.inr (Or.inr ⟨json, fails, _, rfl⟩)

/-! ### The end of a call -/

/-- How a call ends that goes to this address and has this final response. Either may be missing. -/
inductive Verdict {α : Type} (decode : ByteArray → Option α) :
    Option Url → Option Response → Except TransportError (Answer α) → Prop
  | nowhere {detail : String} : Verdict decode none none (.error (.invalidUrl detail))
  | unanswered {url : Url} {message : String} (told : Text.isBlank message = false) :
    Verdict decode (some url) none (.error (.network message))
  | sessionRefused {url : Url} {response : Response} {message : String}
    (status : response.status = unauthorized) (told : Text.isBlank message = false) :
    Verdict decode (some url) (some response) (.error (.authentication message))
  | refused {url : Url} {response : Response} {message : String}
    (failure : response.isSuccess = false) (other : response.status ≠ unauthorized)
    (told : Text.isBlank message = false) :
    Verdict decode (some url) (some response) (.error (.request response.status message))
  | empty {url : Url} {response : Response} (success : response.isSuccess = true)
    (nothing : response.HoldsNoJson) :
    Verdict decode (some url) (some response) (.ok ⟨none, response.status, response.headers⟩)
  | read {url : Url} {response : Response} {data : α} (success : response.isSuccess = true)
    (json : ¬ response.HoldsNoJson) (holds : decode response.body = some data) :
    Verdict decode (some url) (some response) (.ok ⟨some data, response.status, response.headers⟩)
  | unread {url : Url} {response : Response} {detail : String}
    (success : response.isSuccess = true) (json : ¬ response.HoldsNoJson)
    (fails : decode response.body = none) :
    Verdict decode (some url) (some response) (.error (.decode detail))

theorem verdict_conclude (client : Client) (decode : ByteArray → Option α) (method : String)
    (url : Url) (outcome : Outcome) (w : World) :
    Verdict decode (some url) outcome.complete?
      (client.conclude decode method url outcome w).1 := by
  unfold conclude
  split
  next failure => exact .unanswered (TransportError.isBlank_wording _ _)
  next final response => exact .unanswered (TransportError.isBlank_wording _ _)
  next final response =>
    split
    next success =>
      rcases readBody_cases decode response with
        ⟨nothing, same⟩ | ⟨json, data, holds, same⟩ | ⟨json, fails, detail, same⟩
      · rw [same]
        exact .empty success nothing
      · rw [same]
        exact .read success json holds
      · rw [same]
        exact .unread success json fails
    next failure =>
      have told := TransportError.isBlank_wording (Json.Value.ofBytes? response.body)
        (some ("Request failed with status code " ++ toString response.status))
      simp only [refusal]
      split
      next status => exact .sessionRefused status told
      next other => exact .refused (Bool.eq_false_iff.mpr failure) other told

theorem eq_invalidUrl_of_urlFor {client : Client} {path : String} {e : TransportError}
    (failed : client.urlFor path = .error e) : ∃ detail, e = .invalidUrl detail := by
  unfold urlFor at failed
  simp only at failed
  cases parsed : Url.parse (client.baseUrl ++ "/" ++
      String.ofList (path.toList.dropWhile (· == '/'))) with
  | ok url =>
    rw [parsed] at failed
    cases failed
  | error reason =>
    rw [parsed] at failed
    cases failed
    exact ⟨_, rfl⟩

theorem verdict_request (client : Client) (decode : ByteArray → Option α) (method path : String)
    (body : Option String) (w : World) :
    let called := client.request decode method path body w
    Verdict decode (client.urlFor path).toOption (finalResponse? (called.2.since w).hops)
      called.1 := by
  intro called
  cases address : client.urlFor path with
  | error e =>
    obtain ⟨detail, rfl⟩ := eq_invalidUrl_of_urlFor address
    have nothing : called = (.error (.invalidUrl detail), w) := by
      simp only [called, request, address]
    rw [nothing, World.since_self]
    exact .nowhere
  | ok url =>
    obtain ⟨news, proceeds⟩ := client.request_proceeds decode method body w address
    obtain ⟨outcome, v, ends, concluded⟩ := proceeds.ends
    rw [World.since_eq proceeds.grown, ← ends.complete?_eq, concluded]
    exact client.verdict_conclude decode method url outcome v

/-! ### Which end it is -/

private theorem not_success {response : Response} (status : response.status = unauthorized) :
    response.isSuccess = false := by
  rw [Response.isSuccess, status]
  rfl

private theorem ne_unauthorized {response : Response} (success : response.isSuccess = true) :
    response.status ≠ unauthorized := by
  intro status
  rw [not_success status] at success
  cases success

namespace Verdict

variable {url? : Option Url} {final? : Option Response}
  {result : Except TransportError (Answer α)} (verdict : Verdict decode url? final? result)

include verdict

theorem invalidUrl_iff : (∃ detail, result = .error (.invalidUrl detail)) ↔ url? = none := by
  cases verdict <;> simp

theorem network_iff : (∃ message, result = .error (.network message)) ↔
    url?.isSome = true ∧ final? = none := by
  cases verdict <;> simp

theorem authentication_iff : (∃ message, result = .error (.authentication message)) ↔
    ∃ response, final? = some response ∧ response.status = unauthorized := by
  cases verdict with
  | nowhere | unanswered => simp
  | sessionRefused status => simp [status]
  | refused failure other => simp [other]
  | empty success | read success | unread success => simp [ne_unauthorized success]

theorem request_iff (status : Nat) : (∃ message, result = .error (.request status message)) ↔
    ∃ response, final? = some response ∧ response.status = status ∧ response.isSuccess = false ∧
      status ≠ unauthorized := by
  constructor
  · rintro ⟨message, rfl⟩
    cases verdict with
    | refused failure other => exact ⟨_, rfl, rfl, failure, other⟩
  · rintro ⟨response, rfl, rfl, failure, other⟩
    cases verdict with
    | sessionRefused status => exact absurd status other
    | refused => exact ⟨_, rfl⟩
    | empty success | read success | unread success =>
      rw [failure] at success
      cases success

theorem empty_iff : (∃ answer, result = .ok answer ∧ answer.data = none) ↔
    ∃ response, final? = some response ∧ response.isSuccess = true ∧ response.HoldsNoJson := by
  cases verdict with
  | nowhere | unanswered => simp
  | sessionRefused status => simp [not_success status]
  | refused failure => simp [failure]
  | empty success nothing => simp [success, nothing]
  | read success json | unread success json => simp [json]

theorem read_iff (data : α) : (∃ answer, result = .ok answer ∧ answer.data = some data) ↔
    ∃ response, final? = some response ∧ response.isSuccess = true ∧ ¬ response.HoldsNoJson ∧
      decode response.body = some data := by
  cases verdict with
  | nowhere | unanswered => simp
  | sessionRefused status => simp [not_success status]
  | refused failure => simp [failure]
  | empty success nothing => simp [nothing]
  | read success json holds => simp [success, json, holds]
  | unread success json fails => simp [fails]

theorem unread_iff : (∃ detail, result = .error (.decode detail)) ↔
    ∃ response, final? = some response ∧ response.isSuccess = true ∧ ¬ response.HoldsNoJson ∧
      decode response.body = none := by
  cases verdict with
  | nowhere | unanswered => simp
  | sessionRefused status => simp [not_success status]
  | refused failure => simp [failure]
  | empty success nothing => simp [nothing]
  | read success json holds => simp [holds]
  | unread success json fails => simp [success, json, fails]

/-- The error of a session that was refused is known by its status. -/
theorem isAuthentication_iff {e : TransportError} (failed : result = .error e) :
    e.isAuthentication = true ↔ e.status? = some unauthorized := by
  subst failed
  cases verdict with
  | refused failure other => simp [TransportError.isAuthentication, TransportError.status?, other]
  | nowhere | unanswered | sessionRefused | unread =>
    simp [TransportError.isAuthentication, TransportError.status?]

/-- Every failed call has something to say. -/
theorem isBlank_message {e : TransportError} (failed : result = .error e) :
    Text.isBlank e.message = false := by
  subst failed
  cases verdict with
  | nowhere => exact Text.isBlank_append_of_left (by decide) _
  | unread => exact Text.isBlank_append_of_left (by decide) _
  | unanswered told | sessionRefused _ told | refused _ _ told => exact told

end Verdict

/-- The ends of a call, and what each of them takes: `news` is what the call has added to the
journal. -/
structure Classified (client : Client) (decode : ByteArray → Option α) (method path : String)
    (body : Option String) (farEnd : Http.FarEnd) (result : Except TransportError (Answer α))
    (news : Journal) : Prop where
  attempted : news.requests ≠ [] ↔ client.Reaches path farEnd
  first : ∀ request, news.requests.head? = some request → request.Asks client method path body
  invalidUrl : (∃ detail, result = .error (.invalidUrl detail)) ↔
    (client.urlFor path).toOption = none
  unsent : (∃ detail, result = .error (.invalidUrl detail)) → news = []
  network : (∃ message, result = .error (.network message)) ↔
    (client.urlFor path).toOption.isSome = true ∧ finalResponse? news.hops = none
  authentication : (∃ message, result = .error (.authentication message)) ↔
    ∃ response, finalResponse? news.hops = some response ∧ response.status = unauthorized
  request : ∀ status, (∃ message, result = .error (.request status message)) ↔
    ∃ response, finalResponse? news.hops = some response ∧ response.status = status ∧
      response.isSuccess = false ∧ status ≠ unauthorized
  empty : (∃ answer, result = .ok answer ∧ answer.data = none) ↔
    ∃ response, finalResponse? news.hops = some response ∧ response.isSuccess = true ∧
      response.HoldsNoJson
  read : ∀ data, (∃ answer, result = .ok answer ∧ answer.data = some data) ↔
    ∃ response, finalResponse? news.hops = some response ∧ response.isSuccess = true ∧
      ¬ response.HoldsNoJson ∧ decode response.body = some data
  unread : (∃ detail, result = .error (.decode detail)) ↔
    ∃ response, finalResponse? news.hops = some response ∧ response.isSuccess = true ∧
      ¬ response.HoldsNoJson ∧ decode response.body = none
  isAuthentication : ∀ e, result = .error e →
    (e.isAuthentication = true ↔ e.status? = some unauthorized)
  status : ∀ status message, result = .error (.request status message) →
    status ≠ unauthorized ∧ ¬ (200 ≤ status ∧ status < 300)
  message : ∀ e, result = .error e → Text.isBlank e.message = false

theorem since_of_nowhere (client : Client) (decode : ByteArray → Option α) (method : String)
    {path : String} (body : Option String) (w : World)
    (nowhere : (client.urlFor path).toOption = none) :
    (client.request decode method path body w).2.since w = [] := by
  cases address : client.urlFor path with
  | error e =>
    rw [request, address]
    exact w.since_self
  | ok url =>
    rw [address] at nowhere
    cases nowhere

/-- Every call comes to one of these ends, and which one it is can be told from its address and its
final response. Its first request is the one that was asked for, if there is any. -/
theorem request_classified (client : Client) (decode : ByteArray → Option α) (method path : String)
    (body : Option String) (w : World) :
    let called := client.request decode method path body w
    client.Classified decode method path body w.farEnd called.1 (called.2.since w) := by
  intro called
  have verdict : Verdict decode _ _ called.1 :=
    client.verdict_request decode method path body w
  have opening : (called.2.since w).requests.head? = client.firstRequest? method path body w :=
    head?_requests_of_request (Prod.eta called).symm
  constructor
  · rw [← firstRequest?_isSome_iff, ← opening, List.isSome_head?]
  · intro request first
    exact asks_of_firstRequest? (opening.symm.trans first)
  · exact verdict.invalidUrl_iff
  · intro invalid
    exact client.since_of_nowhere decode method body w (verdict.invalidUrl_iff.mp invalid)
  · exact verdict.network_iff
  · exact verdict.authentication_iff
  · exact verdict.request_iff
  · exact verdict.empty_iff
  · exact verdict.read_iff
  · exact verdict.unread_iff
  · exact fun e => verdict.isAuthentication_iff
  · intro status message failed
    obtain ⟨response, _, rfl, failure, other⟩ := (verdict.request_iff status).mp ⟨message, failed⟩
    rw [← response.isSuccess_iff, failure]
    exact ⟨other, Bool.false_ne_true⟩
  · exact fun e => verdict.isBlank_message

end Client

end TeacherRegistry
