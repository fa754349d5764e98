import TeacherRegistry.Proofs.CallOutcomes
import TeacherRegistry.Proofs.Servers

/-!
# What becomes of an accepted address

A client takes its address without the slashes at the end, and writes every path behind it with one
slash in between. So three texts are read where one was checked. The first two are addresses
together, and the third is one with them unless blanks that were dropped from the end of the
address come to stand in its server: then no path can be written behind it.
-/

namespace TeacherRegistry

namespace Url

open TeacherRegistry.Text (trimEndOf)

/-- A text without the slashes at its end. -/
def withoutSlashes (s : String) : String :=
  String.ofList (trimEndOf (· == '/') s.toList)

theorem withoutSlashes_cases (s : String) :
    s = withoutSlashes s ∨ ∃ slashes : List Char, (∀ c ∈ slashes, c = '/') ∧
      s = withoutSlashes s ++ "/" ++ String.ofList slashes := by
  have whole : trimEndOf (· == '/') s.toList ++ s.toList.rtakeWhile (· == '/') = s.toList :=
    List.rdropWhile_append_rtakeWhile
  have each : ∀ c ∈ s.toList.rtakeWhile (· == '/'), c = '/' := fun c among =>
    eq_of_beq (List.mem_rtakeWhile_imp (p := (· == '/')) among)
  cases behind : s.toList.rtakeWhile (· == '/') with
  | nil =>
    rw [behind, List.append_nil] at whole
    refine Or.inl (String.toList_inj.mp ?_)
    rw [withoutSlashes, String.toList_ofList, whole]
  | cons c slashes =>
    rw [behind] at whole each
    obtain ⟨rfl, others⟩ := List.forall_mem_cons.mp each
    refine Or.inr ⟨slashes, others, String.toList_inj.mp ?_⟩
    simp only [withoutSlashes, String.toList_append, String.toList_ofList, List.append_assoc]
    exact whole.symm

/-- Nothing is dropped behind a slash. -/
theorem dropped_of_slashes (s : String) {ds : List Char} (slashes : ∀ c ∈ ds, c = '/') :
    dropped (s ++ "/" ++ String.ofList ds).toList = [] := by
  have slash : isEdge '/' = false := by decide
  have visible : ∃ front, s.toList ++ '/' :: ds = front ++ ['/'] := by
    rcases List.eq_nil_or_concat ds with rfl | ⟨front, last, rfl⟩
    · exact ⟨s.toList, rfl⟩
    · rw [List.concat_eq_append] at slashes ⊢
      obtain rfl : last = '/' := slashes last (by simp)
      exact ⟨s.toList ++ '/' :: front, by simp⟩
  obtain ⟨front, same⟩ := visible
  rw [toList_slash, dropped, same, dropWhile_append_cons slash, List.rtakeWhile_concat,
    if_neg (by decide)]
  rfl

/-! ### Without the slashes at the end -/

theorem isEdge_of_isBreak {c : Char} (broken : isBreak c = true) : isEdge c = true := by
  have each : ['\t', '\n', '\r'].all isEdge = true := by decide
  exact List.all_eq_true.mp each c (List.contains_iff_mem.mp broken)

theorem withoutBreaks_of_visible {ds : List Char} (visible : ∀ c ∈ ds, isEdge c = false) :
    withoutBreaks ds = ds := by
  refine List.filter_eq_self.mpr fun c among => ?_
  rw [Bool.not_eq_true']
  refine Bool.eq_false_iff.mpr fun broken => ?_
  have edge := isEdge_of_isBreak broken
  rw [visible c among] at edge
  cases edge

/-- Nothing is lost of a text without blanks and controls. -/
theorem kept_of_visible {ds : List Char} (visible : ∀ c ∈ ds, isEdge c = false) : kept ds = ds := by
  rw [kept, trimEndOf_of_visible fun c last => visible c (List.mem_of_getLast? last)]
  exact withoutBreaks_of_visible visible

theorem serverText_eq_nil_iff {cs : List Char} (front : ∀ c ∈ cs, isFront c = true) :
    serverText cs = [] ↔ ∀ c ∈ cs, isSlash true c = true := by
  rw [serverText, List.takeWhile_eq_self_iff.mpr front, ← List.dropWhile_eq_nil_iff]
  constructor
  · intro nothing
    cases behind : cs.dropWhile (isSlash true) with
    | nil => rfl
    | cons c rest =>
      -- the first character behind the slashes is none
      have stops := List.head?_dropWhile_not (isSlash true) cs
      rw [behind, List.head?_cons] at stops
      rw [behind, cutBefore, List.takeWhile_cons_of_pos (by simpa using stops)] at nothing
      cases nothing
  · intro nothing
    rw [nothing]
    rfl

section

variable {rest inserted ds : List Char} (edges : ∀ c ∈ inserted, isEdge c = true)
  (slashes : ∀ c ∈ ds, c = '/')
include edges slashes

/-- Behind nothing but slashes blanks are taken for a server. -/
theorem serverText_of_blanks (front : ∀ c ∈ rest, isFront c = true)
    (nothing : ∀ c ∈ rest, isSlash true c = true) :
    serverText (rest ++ (inserted ++ '/' :: ds)) = inserted := by
  have blanks : ∀ c ∈ inserted, isFront c = true ∧ isSlash true c = false := fun c among =>
    of_edge (p := fun c => isFront c = true ∧ isSlash true c = false) (by decide) (edges c among)
  have behind : ∀ c ∈ '/' :: ds, isFront c = true ∧ isSlash true c = true := by
    intro c among
    obtain rfl : c = '/' := (List.mem_cons.mp among).elim id (slashes c)
    decide
  rw [serverText, List.takeWhile_append_of_pos front,
    List.takeWhile_append_of_pos fun c among => (blanks c among).1,
    List.takeWhile_eq_self_iff.mpr fun c among => (behind c among).1,
    List.dropWhile_append_of_pos nothing, cutBefore]
  cases inserted with
  | nil =>
    rw [List.nil_append, List.dropWhile_eq_nil_iff.mpr fun c among => (behind c among).2,
      List.takeWhile_nil]
  | cons c others =>
    have visible : (isSlash true c) ≠ true := by
      rw [(blanks c List.mem_cons_self).2]
      exact Bool.false_ne_true
    rw [List.cons_append, List.dropWhile_cons_of_neg visible, ← List.cons_append,
      List.takeWhile_append_of_pos fun d among => by rw [(blanks d among).2]; rfl,
      List.takeWhile_cons_of_neg (by decide), List.append_nil]

/-- In front of blanks and slashes there is a server if there is one with them. -/
theorem served_of_slashes {scheme : List Char} {url : Url}
    (served : serverText (rest ++ (inserted ++ '/' :: ds)) ≠ [])
    (read : readServer scheme (serverText (rest ++ (inserted ++ '/' :: ds))) = .ok url) :
    serverText rest ≠ [] := by
  intro nothing
  by_cases whole : rest.takeWhile isFront = rest
  · have front := List.takeWhile_eq_self_iff.mp whole
    have all := (serverText_eq_nil_iff front).mp nothing
    -- there is nothing for a server but the blanks, and they are none
    rw [serverText_of_blanks edges slashes front all] at served read
    exact served (@eq_nil_of_readServer scheme [] _ _ edges read)
  · have same := (takeWhile_append_cases isFront rest (inserted ++ '/' :: ds)).resolve_right
      fun further => whole further.1
    rw [serverText, same] at served
    exact served nothing

end

/-- An address with slashes behind it is an address without them, at the same server. -/
theorem parse_of_slashes {s : String} {url : Url} {ds : List Char} (slashes : ∀ c ∈ ds, c = '/')
    (parsed : parse (s ++ "/" ++ String.ofList ds) = .ok url) (network : IsNetwork url.scheme) :
    ∃ path query fragment, parse s = .ok { url with path, query, fragment } := by
  obtain ⟨rest, cut⟩ := cut_of_parse parsed
  rw [parse_of_cut network cut] at parsed
  have visible : ∀ c ∈ ds, isEdge c = false := by
    intro c among
    rw [slashes c among]
    decide
  rw [toList_slash, significant_append_slash, kept_of_visible visible] at cut
  -- neither a blank nor a slash has a place in a scheme
  obtain ⟨front, rfl, before⟩ : ∃ front, rest = front ++ (dropped s.toList ++ '/' :: ds) ∧
      cutScheme? (significant s.toList) = some (url.scheme, front) := by
    cases inserted : dropped s.toList with
    | nil =>
      rw [inserted] at cut
      exact cutScheme?_before (by decide) cut
    | cons c others =>
      have edge : isEdge c = true := edges_dropped c (inserted ▸ List.mem_cons_self)
      rw [inserted] at cut
      exact cutScheme?_before (of_edge (p := fun c => isSchemeChar c = false ∧ c ≠ ':')
        (by decide) edge) cut
  have below := readsBelow network.special parsed
  have server := serverText_eq url.scheme
  obtain ⟨_, read⟩ := server_of_readAuthority network.special parsed
  have whole := below.server
  rw [server] at read whole
  have served := served_of_slashes edges_dropped slashes whole read
  have same : serverText (front ++ (dropped s.toList ++ '/' :: ds)) = serverText front := by
    rw [serverText_append served edges_dropped,
      inserted_of_readServer served edges_dropped read, List.append_nil]
  have again := below.again (cutSuffix url.scheme front).2
    ((cutSuffix url.scheme front).1.dropWhile (isSlash true)) (by rw [server, server, same])
  rw [parse_of_cut network before]
  exact ⟨_, _, _, again⟩

end Url

open Url (IsNetwork isJoinable withoutSlashes)

namespace Client

variable {config : Config} {client : Client}

theorem baseUrl_of_ofConfig (accepted : ofConfig config = .ok client) :
    client.baseUrl = withoutSlashes config.baseUrl ∧
      ∃ base, Url.parse client.baseUrl = .ok base := by
  unfold ofConfig at accepted
  simp only at accepted
  split at accepted
  · cases accepted
  next base parsed =>
    cases accepted
    exact ⟨rfl, base, parsed⟩

theorem maxRetries_of_ofConfig (accepted : ofConfig config = .ok client) :
    client.maxRetries = config.maxRetries := by
  unfold ofConfig at accepted
  simp only at accepted
  split at accepted
  · cases accepted
  · cases accepted
    rfl

/-- Settings that were checked make a client, at the server that was checked. -/
theorem ofConfig_of_valid {home : Url} (configured : Url.parse config.baseUrl = .ok home)
    (http : home.isHttp = true) :
    ∃ client path query fragment, ofConfig config = .ok client ∧
      Url.parse client.baseUrl = .ok { home with path, query, fragment } := by
  have network := Url.isNetwork_of_isHttp http
  obtain ⟨path, query, fragment, parsed⟩ : ∃ path query fragment,
      Url.parse (withoutSlashes config.baseUrl) = .ok { home with path, query, fragment } := by
    rcases Url.withoutSlashes_cases config.baseUrl with same | ⟨slashes, each, same⟩
    · rw [same] at configured
      exact ⟨_, _, _, configured⟩
    · rw [same] at configured
      exact Url.parse_of_slashes each configured network
  have accepted : ofConfig config = .ok
      ⟨withoutSlashes config.baseUrl, config.timeoutMillis, config.loginRoute,
        config.maxRetries⟩ := by
    unfold ofConfig
    rw [withoutSlashes] at parsed
    simp only [parsed]
    rfl
  exact ⟨_, path, query, fragment, accepted, parsed⟩

/-- Whether paths can be written behind an address does not depend on the slashes at its end. -/
theorem isJoinable_of_ofConfig {home : Url} (configured : Url.parse config.baseUrl = .ok home)
    (http : home.isHttp = true) (accepted : ofConfig config = .ok client) :
    isJoinable client.baseUrl = isJoinable config.baseUrl := by
  obtain ⟨text, base, parsed⟩ := baseUrl_of_ofConfig accepted
  rcases Url.withoutSlashes_cases config.baseUrl with same | ⟨slashes, each, same⟩
  · rw [text, ← same]
  · rw [← text] at same
    have scheme : home.scheme = base.scheme := by
      rw [same] at configured
      exact Url.scheme_behind parsed configured
    have network : IsNetwork base.scheme := scheme ▸ Url.isNetwork_of_isHttp http
    have nothing : Url.dropped config.baseUrl.toList = [] := by
      rw [same]
      exact Url.dropped_of_slashes _ each
    rw [Url.joinable_of_parse parsed network (same ▸ configured), isJoinable, nothing]
    rfl

theorem parse_of_urlFor {url : Url} {path : String}
    (address : client.urlFor path = .ok url) :
    Url.parse (client.baseUrl ++ "/" ++ String.ofList (path.toList.dropWhile (· == '/'))) =
      .ok url := by
  unfold urlFor at address
  simp only at address
  cases parsed : Url.parse
      (client.baseUrl ++ "/" ++ String.ofList (path.toList.dropWhile (· == '/'))) with
  | error e =>
    rw [parsed] at address
    cases address
  | ok found =>
    rw [parsed] at address
    cases address
    rfl

theorem urlFor_isOk_iff {base : Url} (parsed : Url.parse client.baseUrl = .ok base)
    (network : IsNetwork base.scheme) (path : String) :
    (∃ url, client.urlFor path = .ok url) ↔ isJoinable client.baseUrl = true := by
  constructor
  · rintro ⟨url, address⟩
    exact Url.joinable_of_parse parsed network (parse_of_urlFor address)
  · intro joinable
    obtain ⟨rest, cut⟩ := Url.cut_of_parse parsed
    simp only [urlFor, Url.parse_of_joinable parsed network joinable cut]
    exact ⟨_, rfl⟩

end Client

/-- Settings that were checked always make a client. All its paths have addresses, and none of its
requests fails for the want of one, if paths can be written behind the configured text; if they
cannot, no path has an address, and every request fails for that. -/
theorem Config.accepted_base_iff {config : Config} (valid : config.validate = .ok ()) :
    ∃ client, Client.ofConfig config = .ok client ∧ ∀ path,
      ((∃ url, client.urlFor path = .ok url) ↔ isJoinable config.baseUrl = true) ∧
      ∀ {α : Type} (decode : ByteArray → Option α) (method : String) (body : Option String)
        (w : World),
        (∃ detail, (client.request decode method path body w).1 = .error (.invalidUrl detail)) ↔
          isJoinable config.baseUrl = false := by
  obtain ⟨home, configured, http⟩ := config.validate_iff.mp valid
  obtain ⟨client, _, _, _, accepted, parsed⟩ := Client.ofConfig_of_valid configured http
  have addressed : ∀ path, (∃ url, client.urlFor path = .ok url) ↔
      isJoinable config.baseUrl = true := by
    intro path
    rw [← Client.isJoinable_of_ofConfig configured http accepted]
    exact Client.urlFor_isOk_iff parsed (Url.isNetwork_of_isHttp http) path
  refine ⟨client, accepted, fun path => ⟨addressed path, ?_⟩⟩
  intro α decode method body w
  rw [(client.verdict_request decode method path body w).invalidUrl_iff, ← Bool.not_eq_true,
    ← addressed path]
  cases client.urlFor path <;> simp [Except.toOption]

/-- In front of a slash blanks do no harm. -/
theorem Config.accepted_base_slashed :
    let config := { Config.default with baseUrl := " http://api.test/api /" }
    config.validate = .ok () ∧
      ∃ client, Client.ofConfig config = .ok client ∧
        ∀ path, ∃ url, client.urlFor path = .ok url := by
  intro config
  have valid : config.validate = .ok () := by decide +kernel
  obtain ⟨client, accepted, law⟩ := Config.accepted_base_iff valid
  exact ⟨valid, client, accepted, fun path => (law path).1.mpr (by decide +kernel)⟩

/-- A blank behind a bare server passes the check, but nothing can be written behind it. -/
theorem Config.blank_base_fails :
    ¬ ∀ config : Config, config.validate = .ok () →
      ∃ client, Client.ofConfig config = .ok client ∧
        ∀ path, ∃ url, client.urlFor path = .ok url := by
  intro always
  obtain ⟨client, accepted, addressed⟩ :=
    always { Config.default with baseUrl := "http://api.test " } (by decide +kernel)
  have made : Client.ofConfig { Config.default with baseUrl := "http://api.test " } =
      .ok ⟨"http://api.test ", 10000, "/login", 0⟩ := by decide +kernel
  rw [made] at accepted
  cases accepted
  obtain ⟨url, address⟩ := addressed "docentes"
  have refused : (Client.urlFor ⟨"http://api.test ", 10000, "/login", 0⟩ "docentes").toOption =
      none := by decide +kernel
  rw [address] at refused
  cases refused

end TeacherRegistry
