import TeacherRegistry.Proofs.FirstRequests
import TeacherRegistry.Proofs.PlainSegments

/-!
# The address of one record

The path of a record is that of the list with a slash and the identifier behind it, as it is. So a
request for a record goes to exactly that record if the identifier is a plain segment, and only
then. Numbers always are; a text from the server or the operator may be anything.
-/

namespace TeacherRegistry

open Url (EndsVisibly IsNetwork isPlainSegment kept cutSuffix cutSegments pushSegments pushInner
  percentDecode percentEncode pathEscapes)

namespace Url

/-- An address below another one, apart from an empty last segment. -/
def IsCollectionOf (collection base : Url) : Prop :=
  ∃ above, (base.path = .rooted above ∨ base.path = .rooted (above ++ [[]])) ∧
    collection = { base with path := .rooted (above ++ ["docentes".toList]) }

/-- An address of one item of a collection: on the same server, one segment below the collection,
which decodes to the text that names the item. -/
structure IsItemOf (url collection : Url) (text : String) : Prop where
  scheme : url.scheme = collection.scheme
  host : url.host = collection.host
  port : url.port = collection.port
  path : ∃ segments segment, collection.path = .rooted segments ∧
    url.path = .rooted (segments ++ [segment]) ∧ segment ≠ [] ∧
      String.fromUTF8? ⟨(percentDecode segment).toArray⟩ = some text
  query : url.query = none

/-- An address is that of one item at most. -/
theorem IsItemOf.text_unique {url collection : Url} {text other : String}
    (item : url.IsItemOf collection text) (item' : url.IsItemOf collection other) :
    text = other := by
  obtain ⟨segments, segment, inside, path, _, decoded⟩ := item.path
  obtain ⟨segments', segment', inside', path', _, decoded'⟩ := item'.path
  rw [inside] at inside'
  cases inside'
  rw [path] at path'
  simp only [Path.rooted.injEq, List.append_cancel_left_eq, List.cons.injEq, and_true] at path'
  subst path'
  exact Option.some.inj (decoded.symm.trans decoded')

/-- What is read below a collection is an item of it exactly if it is a plain segment. -/
theorem isItemOf_iff {collection : Url} {segments : List (List Char)}
    (inside : collection.path = .rooted segments) (network : IsNetwork collection.scheme)
    (text : String) :
    let read := cutSuffix collection.scheme (kept text.toList)
    IsItemOf { collection with
      path := .rooted (pushSegments collection.scheme segments (cutSegments true read.1))
      query := read.2.query
      fragment := read.2.fragment } collection text ↔ isPlainSegment text.toList = true := by
  intro read
  constructor
  · intro item
    obtain ⟨_, segment, _, here, filled, decoded⟩ := item.path
    -- of the path only its last segment matters, since that has to decode to the text
    have last := congrArg List.getLast? (Path.rooted.inj here)
    rw [List.getLast?_concat] at last
    exact plain_of_last network last filled (fromUTF8?_eq_some_iff.mp decoded)
  · intro plain
    obtain ⟨uncut, pushed⟩ := read_of_plain network segments plain
    obtain ⟨⟨filled, _⟩, _, _, unescaped⟩ := isPlainSegment_iff.mp plain
    have decoded : percentDecode (percentEncode pathEscapes text.toList) = utf8 text.toList := by
      rw [percentDecode_percentEncode, percentDecode_of_plain unescaped]
    have alone : read = (text.toList, ⟨none, none⟩) := uncut
    rw [alone]
    exact ⟨rfl, rfl, rfl, ⟨segments, _, inside, congrArg Path.rooted pushed,
      percentEncode_filled filled, fromUTF8?_eq_some_iff.mpr decoded⟩, rfl⟩

theorem isItemOf_requested {url collection : Url} {text : String} :
    url.requested.IsItemOf collection text ↔ url.IsItemOf collection text := by
  obtain ⟨username, password, same⟩ := url.requested_eq
  rw [same]
  exact ⟨fun item => ⟨item.scheme, item.host, item.port, item.path, item.query⟩,
    fun item => ⟨item.scheme, item.host, item.port, item.path, item.query⟩⟩

end Url

/-- A number is a plain segment. -/
theorem isPlainSegment_number (n : Int64) :
    isPlainSegment (TeacherId.number n).display.toList = true := by
  have digits : ∀ m, ∀ c ∈ Nat.toDigits 10 m, c.isDigit = true := fun m c among =>
    Nat.isDigit_of_mem_toDigits (by decide) (by decide) among
  rw [TeacherId.display, Int.toString_eq_repr]
  cases n.toInt with
  | ofNat m =>
    rw [Int.repr, Nat.toList_repr]
    exact Url.isPlainSegment_of_digits Nat.toDigits_ne_nil fun c among => Or.inr (digits m c among)
  | negSucc m =>
    rw [Int.repr, String.toList_append, Nat.toList_repr]
    refine Url.isPlainSegment_of_digits (List.cons_ne_nil '-' _) fun c among => ?_
    rcases List.mem_cons.mp among with rfl | later
    · exact Or.inl rfl
    · exact Or.inr (digits _ c later)

/-- A client of a network address that has neither query nor fragment, and is written without blanks
and controls at its end. -/
structure Client.BoundTo (client : Client) (base : Url) : Prop where
  parsed : Url.parse client.baseUrl = .ok base
  http : base.isHttp = true
  query : base.query = none
  fragment : base.fragment = none
  visible : EndsVisibly client.baseUrl.toList

namespace Client

variable {client : Client} {base : Url}

private theorem urlFor_of_parse {path : String} {ds : List Char} {url : Url}
    (written : path.toList.dropWhile (· == '/') = ds)
    (parsed : Url.parse (client.baseUrl ++ "/" ++ String.ofList ds) = .ok url) :
    client.urlFor path = .ok url := by
  simp only [urlFor, written, parsed]
  rfl

/-- The list is below the address of the client, and an identifier is read below the list. -/
theorem BoundTo.addresses (bound : client.BoundTo base) :
    ∃ above, (base.path = .rooted above ∨ base.path = .rooted (above ++ [[]])) ∧
      client.urlFor Controller.listPath =
        .ok { base with path := .rooted (above ++ ["docentes".toList]) } ∧
      ∀ id : TeacherId,
        let read := cutSuffix base.scheme (kept id.display.toList)
        client.urlFor (Controller.itemPath id) = .ok
          { base with
            path := .rooted (pushSegments base.scheme (above ++ ["docentes".toList])
              (cutSegments true read.1))
            query := read.2.query
            fragment := read.2.fragment } := by
  have network := Url.isNetwork_of_isHttp bound.http
  obtain ⟨above, path, below⟩ :=
    Url.parse_below bound.parsed network bound.query bound.fragment bound.visible
  have same : percentEncode pathEscapes "docentes".toList = "docentes".toList := by decide
  refine ⟨above, path, ?_, fun id => ?_⟩
  · have parsed := below "docentes".toList
    obtain ⟨uncut, pushed⟩ := Url.read_of_plain network above
      (show isPlainSegment "docentes".toList = true by decide)
    rw [uncut] at parsed
    simp only at parsed
    rw [pushed, same] at parsed
    rw [bound.query, bound.fragment]
    exact urlFor_of_parse rfl parsed
  · have parsed := below ("docentes".toList ++ '/' :: id.display.toList)
    -- cleaning and cutting pass over the name of the list, whatever the identifier holds
    have whole : kept ("docentes".toList ++ '/' :: id.display.toList) =
        "docentes/".toList ++ kept id.display.toList := by
      rw [kept, Url.trimEndOf_append_cons (by decide), Url.withoutBreaks_append]
      rfl
    rw [whole, (@Url.cutSuffix_append base.scheme "docentes/".toList rfl rfl _).2] at parsed
    have pieces : ∀ front, cutSegments true ("docentes/".toList ++ front) =
        ["docentes".toList] ++ cutSegments true front := fun front =>
      List.splitOnP_append_cons "docentes".toList front rfl
    have filled : ∀ front, cutSegments true front ≠ [] := fun front =>
      List.splitOnP_ne_nil (Url.isSlash true) front
    have inner : pushInner base.scheme above ["docentes".toList] =
        above ++ ["docentes".toList] := by
      have pushed := Url.pushSegment_network network above "docentes".toList false
      rw [if_neg (by decide), if_neg (by decide)] at pushed
      exact pushed.trans (by rw [← same]; rfl)
    simp only [pieces] at parsed
    rw [Url.pushSegments_append _ _ _ (filled _), inner] at parsed
    refine urlFor_of_parse ?_ parsed
    have path : (Controller.itemPath id).toList =
        '/' :: ("docentes".toList ++ '/' :: id.display.toList) := by
      simp only [Controller.itemPath, Controller.listPath, String.toList_append, List.append_assoc]
      rfl
    rw [path]
    rfl

/-- The address that is requested for a record is that of the record exactly if the identifier is a
plain segment. -/
theorem BoundTo.item_iff (bound : client.BoundTo base) :
    ∃ collection, client.urlFor Controller.listPath = .ok collection ∧
      collection.IsCollectionOf base ∧
      ∀ id : TeacherId, ∃ url, client.urlFor (Controller.itemPath id) = .ok url ∧
        url.scheme = base.scheme ∧ url.host = base.host ∧
        (url.requested.IsItemOf collection id.display ↔
          isPlainSegment id.display.toList = true) := by
  have network := Url.isNetwork_of_isHttp bound.http
  obtain ⟨above, path, list, items⟩ := bound.addresses
  have inside : Url.path { base with path := .rooted (above ++ ["docentes".toList]) } =
      .rooted (above ++ ["docentes".toList]) := rfl
  refine ⟨_, list, ⟨above, path, rfl⟩, fun id => ⟨_, items id, rfl, rfl, ?_⟩⟩
  exact Url.isItemOf_requested.trans (Url.isItemOf_iff inside network id.display)

end Client

/-! ### The first request for a record -/

namespace Desk

/-- An action that changes this record on the server: a deletion that the operator agrees to, or the
submission of a valid draft which is under edit with this identifier. -/
inductive Targets (desk : Desk) : Action → TeacherId → Prop where
  | delete {id : TeacherId} (agreed : (desk.world.ask Controller.deleteQuestion).1 = true) :
    Targets desk (.delete id) id
  | update {id : TeacherId} (valid : desk.controller.draft.fault? = none)
    (editing : desk.controller.editing = true) (known : desk.controller.draft.id = some id) :
    Targets desk .submit id

theorem Targets.first {desk : Desk} {action : Action} {id : TeacherId}
    (targets : desk.Targets action id) (farEnd : Http.FarEnd) :
    ∃ method body w, w.farEnd = farEnd ∧
      ((desk.take ⟨farEnd, action⟩).2.world.since desk.world).requests.head? =
        desk.client.firstRequest? method (Controller.itemPath id) body w := by
  cases targets with
  | delete agreed =>
    have asked : (({ desk.world with farEnd }.enter (.delete id.display)).ask
        Controller.deleteQuestion).1 = _ := World.fst_ask_of_same _ desk.world _ rfl
    have first := Controller.head?_requests_of_delete desk.client desk.controller
      { desk.world with farEnd } id
    simp only at first
    rw [asked, agreed, if_pos rfl] at first
    exact ⟨"DELETE", none, _, World.farEnd_ask _ _, first⟩
  | update valid editing known =>
    have planned : desk.controller.plan = .ok (.updated, "PUT", Controller.itemPath id) := by
      simp only [Controller.plan, valid, editing, known]
    have first := Controller.head?_requests_of_submit desk.client desk.controller
      { desk.world with farEnd }
    rw [planned] at first
    exact ⟨"PUT", some desk.controller.draft.json, _, rfl, first⟩

/-- Below a network address without query and fragment, the first request to change a record goes to
the address of exactly that record if its identifier is a plain segment, and only then. Whatever the
identifier is, the request is made. -/
theorem item_request_iff {desk : Desk} {base : Url} (bound : desk.client.BoundTo base) :
    ∃ collection, desk.client.urlFor Controller.listPath = .ok collection ∧
      collection.IsCollectionOf base ∧
      ∀ action id farEnd, desk.Targets action id →
        let first := ((desk.take ⟨farEnd, action⟩).2.world.since desk.world).requests.head?
        (∀ request, first = some request →
          (request.url.IsItemOf collection id.display ↔ isPlainSegment id.display.toList = true)) ∧
          (Http.isSendable base = true → farEnd.isReachable = true →
            ∃ request, first = some request) := by
  obtain ⟨collection, list, below, items⟩ := bound.item_iff
  refine ⟨collection, list, below, fun action id farEnd targets => ?_⟩
  obtain ⟨url, address, scheme, host, item⟩ := items id
  obtain ⟨method, body, w, there, first⟩ := targets.first farEnd
  intro head
  constructor
  · intro request sent
    obtain ⟨url', address', _, target, _⟩ := Client.eq_of_firstRequest? (first.symm.trans sent)
    rw [address] at address'
    cases address'
    rw [target]
    exact item
  · intro sendable reachable
    have reaches : (Http.Request.to method url body).reaches w.farEnd = true := by
      rw [Http.Request.reaches, there, reachable, Bool.and_true, ← sendable]
      exact Url.isSendable_requested scheme host
    have sent : head = _ := first
    rw [sent, Client.firstRequest?, address]
    exact ⟨_, if_pos reaches⟩

/-- The address of the sample desk. -/
def sampleBase : Url :=
  { scheme := "http".toList, username := [], password := []
    host := some (.ipv4 0x7F000001), port := some 8081
    path := .rooted ["api".toList], query := none, fragment := none }

theorem sample_bound : sample.client.BoundTo sampleBase where
  parsed := by decide +kernel
  http := by decide
  query := rfl
  fragment := rfl
  visible := by
    intro c last
    cases last
    decide

/-- Deleting a record with a number goes to its address. -/
theorem item_request_iff_number :
    ∃ collection request, sample.client.urlFor Controller.listPath = .ok collection ∧
      ((sample.take ⟨.script [], .delete (.number 7)⟩).2.world.since sample.world).requests.head? =
        some request ∧ request.url.IsItemOf collection (TeacherId.number 7).display := by
  obtain ⟨collection, list, _, requests⟩ := item_request_iff sample_bound
  obtain ⟨item, sent⟩ := requests (.delete (.number 7)) (.number 7) (.script []) (.delete rfl)
  obtain ⟨request, first⟩ := sent (by decide) rfl
  exact ⟨collection, request, list, first, (item request first).mpr (isPlainSegment_number 7)⟩

/-- An identifier with a slash in it leads to another address, two segments below the list. -/
theorem item_request_strays :
    ¬ ∀ (desk : Desk) (base : Url), desk.client.BoundTo base →
      ∃ collection, desk.client.urlFor Controller.listPath = .ok collection ∧
        ∀ action id farEnd request, desk.Targets action id →
          ((desk.take ⟨farEnd, action⟩).2.world.since desk.world).requests.head? = some request →
            request.url.IsItemOf collection id.display := by
  intro always
  obtain ⟨collection, list, items⟩ := always sample sampleBase sample_bound
  have inside : (sample.client.urlFor Controller.listPath).toOption.map Url.path =
      some (.rooted ["api".toList, "docentes".toList]) := by decide +kernel
  have sent : ((sample.take ⟨.script [], .delete (.text "a/b")⟩).2.world.since
      sample.world).requests.head?.map (fun request => request.url.path) =
      some (.rooted ["api".toList, "docentes".toList, "a".toList, "b".toList]) := by decide +kernel
  obtain ⟨request, first, path⟩ := Option.map_eq_some_iff.mp sent
  obtain ⟨segments, segment, here, below, _⟩ :=
    (items (.delete (.text "a/b")) (.text "a/b") (.script []) request (.delete rfl) first).path
  rw [list] at inside
  have listed : collection.path = .rooted ["api".toList, "docentes".toList] :=
    Option.some.inj inside
  rw [path] at below
  rw [listed] at here
  cases here
  cases below

end Desk

end TeacherRegistry
