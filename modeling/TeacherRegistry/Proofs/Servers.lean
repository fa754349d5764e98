import Mathlib.Data.List.DropRight
import TeacherRegistry.Proofs.HostTexts

/-!
# Nothing written behind an address changes its server

Whatever is written behind an address with a slash in between, its scheme, credentials, host and port
stay as they were, or there is no address any more. The slash ends the server, so all that can come
to stand behind it there are the blanks and controls that were dropped from the end of the address;
and a server does not end in any of these.
-/

namespace TeacherRegistry.Url

open TeacherRegistry.Text (trimEndOf)

/-! ### The end of a server -/

theorem cutPort_cases (inside : Bool) (cs : List Char) :
    cutPort inside cs = (cs, none) ∨
      ∃ host port, cutPort inside cs = (host, some port) ∧ cs = host ++ ':' :: port := by
  induction cs generalizing inside with
  | nil => exact Or.inl rfl
  | cons c rest ih =>
    unfold cutPort
    split
    next colon =>
      obtain ⟨rfl, _⟩ := colon
      exact Or.inr ⟨[], rest, rfl, rfl⟩
    · rcases ih ((inside || c = '[') && c ≠ ']') with whole | ⟨host, port, cut, rfl⟩
      · rw [whole]
        exact Or.inl rfl
      · rw [cut]
        exact Or.inr ⟨c :: host, port, rfl, rfl⟩

theorem cutAtLast_cases (mark : Char) (cs : List Char) :
    cutAtLast mark cs = (none, cs) ∨
      ∃ before behind, cutAtLast mark cs = (some before, behind) ∧
        cs = before ++ mark :: behind := by
  unfold cutAtLast
  rcases cutAt_cases mark cs.reverse with ⟨_, uncut⟩ | ⟨front, rest, written, _, cut⟩
  · rw [uncut]
    exact Or.inl rfl
  · rw [cut]
    refine Or.inr ⟨rest.reverse, front.reverse, rfl, ?_⟩
    rw [← List.reverse_reverse cs, written]
    simp

theorem EndsVisibly.behind {cs : List Char} (visible : EndsVisibly cs) {mark : Char}
    (marked : isEdge mark = false) (front : List Char) : EndsVisibly (front ++ mark :: cs) := by
  intro c last
  rw [List.getLast?_append, List.getLast?_cons, Option.some_or] at last
  cases behind : cs.getLast? with
  | none =>
    rw [behind] at last
    cases last
    exact marked
  | some d =>
    rw [behind] at last
    cases last
    exact visible _ behind

theorem visible_of_digits {cs : List Char} (digits : cs.all Char.isDigit = true) :
    EndsVisibly cs := by
  intro c last
  have digit := List.all_eq_true.mp digits c (List.mem_of_getLast? last)
  rw [← Bool.not_eq_true]
  intro edge
  rw [of_edge (p := fun c => c.isDigit = false) (by decide) edge] at digit
  cases digit

theorem digits_of_readPort {scheme digits : List Char} {port : Option Nat}
    (read : readPort scheme digits = .ok port) : digits.all Char.isDigit = true := by
  unfold readPort at read
  split at read
  next all => exact all
  · cases read

theorem parts_of_readServer {scheme authority : List Char} {url : Url}
    (read : readServer scheme authority = .ok url) :
    let written := cutPort false (cutAtLast '@' authority).2
    written.1 ≠ [] ∧ (∃ host, specialHost written.1 = .ok host) ∧
      ∃ port, readPort scheme (written.2.getD []) = .ok port := by
  intro written
  unfold readServer at read
  simp only [bind, Except.bind, throw, throwThe, MonadExceptOf.throw] at read
  split at read
  · cases read
  next named =>
    refine ⟨named, ?_⟩
    cases readHost : specialHost written.1 with
    | error e =>
      rw [readHost] at read
      cases read
    | ok host =>
      cases readPort : readPort scheme (written.2.getD []) with
      | error e =>
        rw [readHost] at read
        simp only at read
        rw [readPort] at read
        cases read
      | ok port => exact ⟨⟨host, rfl⟩, port, rfl⟩

theorem visible_of_readServer {scheme authority : List Char} {url : Url}
    (read : readServer scheme authority = .ok url) : EndsVisibly authority := by
  obtain ⟨named, ⟨host, readHost⟩, port, readPort⟩ := parts_of_readServer read
  -- the end of a server is that of its host or of its port
  have address : EndsVisibly (cutAtLast '@' authority).2 := by
    rcases cutPort_cases false (cutAtLast '@' authority).2 with whole | ⟨front, digits, cut, same⟩
    · rw [whole] at readHost
      exact visible_of_specialHost readHost
    · rw [cut] at readPort
      rw [same]
      exact (visible_of_digits (digits_of_readPort readPort)).behind rfl front
  rcases cutAtLast_cases '@' authority with whole | ⟨userInfo, behind, cut, same⟩
  · rw [whole] at address
    exact address
  · rw [cut] at address
    rw [same]
    exact address.behind rfl userInfo

/-! ### What is dropped between an address and a slash -/

/-- What is dropped from the end of a text, apart from tabs and line breaks. -/
def dropped (cs : List Char) : List Char :=
  withoutBreaks ((cs.dropWhile isEdge).rtakeWhile isEdge)

theorem edges_dropped {cs : List Char} : ∀ c ∈ dropped cs, isEdge c = true :=
  fun _ among => List.mem_rtakeWhile_imp (List.mem_of_mem_filter among)

/-- Behind a slash, what is dropped from the end of a text comes to stand inside. -/
theorem significant_append_slash (cs ds : List Char) :
    significant (cs ++ '/' :: ds) = significant cs ++ (dropped cs ++ '/' :: kept ds) := by
  have slash : isEdge '/' = false := by decide
  have cleaned : ∀ es, significant es = withoutBreaks ((es.dropWhile isEdge).rdropWhile isEdge) :=
    fun _ => rfl
  have whole : withoutBreaks (cs.dropWhile isEdge) = significant cs ++ dropped cs := by
    rw [cleaned, dropped, ← withoutBreaks_append, List.rdropWhile_append_rtakeWhile]
  have trimmed : ∀ es, (cs.dropWhile isEdge ++ '/' :: es).rdropWhile isEdge =
      cs.dropWhile isEdge ++ '/' :: trimEndOf isEdge es :=
    trimEndOf_append_cons slash (cs.dropWhile isEdge)
  rw [cleaned (cs ++ '/' :: ds), dropWhile_append_cons slash, trimmed, withoutBreaks_append, whole,
    List.append_assoc]
  rfl

/-! ### Where a server stands -/

/-- Whether a character stands neither for the start of a query nor for that of a fragment. -/
def isFront (c : Char) : Bool :=
  c ≠ '#' && c ≠ '?'

private theorem cutAt_fst (mark : Char) (cs : List Char) :
    (cutAt mark cs).1 = cs.takeWhile (· ≠ mark) := by
  unfold cutAt
  split
  next all =>
    have whole := List.takeWhile_append_dropWhile (p := (· ≠ mark)) (l := cs)
    rw [all, List.append_nil] at whole
    exact whole.symm
  · rfl

theorem cutSuffix_fst (scheme cs : List Char) :
    (cutSuffix scheme cs).1 = cs.takeWhile isFront := by
  have first : (cutSuffix scheme cs).1 = (cutAt '?' (cutAt '#' cs).1).1 := rfl
  rw [first, cutAt_fst, cutAt_fst, List.takeWhile_takeWhile]
  congr 1
  funext c
  simp [isFront, and_comm]

/-- The text of the server behind the colon of a network address. -/
def serverText (cs : List Char) : List Char :=
  (cutBefore (isSlash true) ((cs.takeWhile isFront).dropWhile (isSlash true))).1

theorem serverText_eq (scheme cs : List Char) :
    (cutBefore (isSlash true) ((cutSuffix scheme cs).1.dropWhile (isSlash true))).1 =
      serverText cs := by
  rw [cutSuffix_fst]
  rfl

theorem takeWhile_append_cases (p : Char → Bool) (cs ds : List Char) :
    (cs ++ ds).takeWhile p = cs.takeWhile p ∨
      cs.takeWhile p = cs ∧ (cs ++ ds).takeWhile p = cs ++ ds.takeWhile p := by
  rw [List.takeWhile_append]
  split
  next all => exact Or.inr ⟨(List.takeWhile_prefix p).eq_of_length all, rfl⟩
  · exact Or.inl rfl

/-- Whether what stands behind the colon of a network address ends in the server: behind the slashes
in front there is no other one, no query and no fragment. -/
def endsInServer (cs : List Char) : Bool :=
  (cs.dropWhile (isSlash true)).all fun c => isFront c && !isSlash true c

theorem endsInServer_iff (cs : List Char) :
    endsInServer cs = true ↔ cs.takeWhile isFront = cs ∧
      (cs.dropWhile (isSlash true)).takeWhile (!isSlash true ·) = cs.dropWhile (isSlash true) := by
  have slashes : ∀ c ∈ cs.takeWhile (isSlash true), isFront c = true := by
    intro c among
    have slash := List.mem_takeWhile_imp among
    rcases Bool.or_eq_true_iff.mp slash with same | same
    · rw [eq_of_beq same]
      decide
    · rw [eq_of_beq same]
      decide
  have whole := List.takeWhile_append_dropWhile (p := isSlash true) (l := cs)
  rw [endsInServer, List.all_eq_true, List.takeWhile_eq_self_iff, List.takeWhile_eq_self_iff]
  simp only [Bool.and_eq_true]
  constructor
  · intro each
    refine ⟨fun c among => ?_, fun c among => (each c among).2⟩
    rw [← whole, List.mem_append] at among
    exact among.elim (slashes c) fun behind => (each c behind).1
  · rintro ⟨front, slashless⟩ c among
    exact ⟨front c ((List.dropWhile_sublist _).subset among), slashless c among⟩

/-- What is written on comes into the text of a server up to the first slash if the text ends in the
server, and not at all if it does not. -/
theorem serverText_append {rest inserted : List Char} (served : serverText rest ≠ [])
    (edges : ∀ c ∈ inserted, isEdge c = true) (ds : List Char) :
    serverText (rest ++ (inserted ++ '/' :: ds)) =
      serverText rest ++ if endsInServer rest then inserted else [] := by
  have front : ∀ c ∈ inserted, isFront c = true := fun c among =>
    of_edge (p := fun c => isFront c = true) (by decide) (edges c among)
  have slashless : ∀ c ∈ inserted, (!isSlash true c) = true := fun c among =>
    of_edge (p := fun c => (!isSlash true c) = true) (by decide) (edges c among)
  unfold serverText at served ⊢
  by_cases whole : rest.takeWhile isFront = rest
  · have begun : (rest.dropWhile (isSlash true)).isEmpty = false := by
      rw [whole] at served
      rw [List.isEmpty_eq_false_iff]
      intro nothing
      exact served (by rw [nothing]; rfl)
    have further : (rest ++ (inserted ++ '/' :: ds)).takeWhile isFront =
        rest ++ (inserted ++ '/' :: ds.takeWhile isFront) := by
      rw [List.takeWhile_append_of_pos (List.takeWhile_eq_self_iff.mp whole),
        List.takeWhile_append_of_pos front, List.takeWhile_cons_of_pos (by decide)]
    rw [further, whole, List.dropWhile_append, begun, if_neg Bool.false_ne_true]
    simp only [cutBefore]
    by_cases bare : (rest.dropWhile (isSlash true)).takeWhile (!isSlash true ·) =
        rest.dropWhile (isSlash true)
    · rw [if_pos ((endsInServer_iff rest).mpr ⟨whole, bare⟩), bare,
        List.takeWhile_append_of_pos (List.takeWhile_eq_self_iff.mp bare),
        List.takeWhile_append_of_pos slashless, List.takeWhile_cons_of_neg (by decide),
        List.append_nil]
    · rw [if_neg (fun ends => bare ((endsInServer_iff rest).mp ends).2), List.append_nil]
      exact (takeWhile_append_cases _ _ _).resolve_right fun further => bare further.1
  · -- query or fragment have begun, and what is written on belongs to them
    rw [if_neg (fun ends => whole ((endsInServer_iff rest).mp ends).1), List.append_nil,
      (takeWhile_append_cases isFront rest _).resolve_right fun further => whole further.1]

/-! ### The same server -/

theorem server_of_readAuthority {scheme cs : List Char} (special : isSpecial scheme = true)
    {suffix : Suffix} {url : Url} (read : readAuthority scheme suffix cs = .ok url) :
    ∃ server, readServer scheme (cutBefore (isSlash true) cs).1 = .ok server := by
  rw [readAuthority_special special] at read
  cases found : readServer scheme (cutBefore (isSlash true) cs).1 with
  | error e =>
    rw [found] at read
    cases read
  | ok server => exact ⟨server, rfl⟩

theorem eq_nil_of_readServer {scheme authority inserted : List Char} {url : Url}
    (edges : ∀ c ∈ inserted, isEdge c = true)
    (read : readServer scheme (authority ++ inserted) = .ok url) : inserted = [] := by
  have visible := visible_of_readServer read
  rcases List.eq_nil_or_concat inserted with none | ⟨front, last, rfl⟩
  · exact none
  -- the last of them would be the end of the server
  · have seen := visible last (by rw [List.concat_eq_append, ← List.append_assoc,
      List.getLast?_concat])
    rw [edges last (by simp)] at seen
    cases seen

/-- What is written on does not come into the text of a server that can be read. -/
theorem inserted_of_readServer {scheme rest inserted ds : List Char} {url : Url}
    (served : serverText rest ≠ []) (edges : ∀ c ∈ inserted, isEdge c = true)
    (read : readServer scheme (serverText (rest ++ (inserted ++ '/' :: ds))) = .ok url) :
    (if endsInServer rest then inserted else []) = [] := by
  rw [serverText_append served edges] at read
  refine eq_nil_of_readServer (fun c among => ?_) read
  split at among
  · exact edges c among
  · cases among

theorem cut_behind {s : String} {scheme rest : List Char}
    (cut : cutScheme? (significant s.toList) = some (scheme, rest)) (ds : List Char) :
    cutScheme? (significant (s ++ "/" ++ String.ofList ds).toList) =
      some (scheme, rest ++ (dropped s.toList ++ '/' :: kept ds)) := by
  rw [toList_slash, significant_append_slash]
  exact cutScheme?_append cut _

theorem scheme_behind {s : String} {base url : Url} (parsed : parse s = .ok base) {ds : List Char}
    (parsed' : parse (s ++ "/" ++ String.ofList ds) = .ok url) : url.scheme = base.scheme := by
  obtain ⟨rest, cut⟩ := cut_of_parse parsed
  obtain ⟨rest', cut'⟩ := cut_of_parse parsed'
  rw [cut_behind cut] at cut'
  exact (congrArg Prod.fst (Option.some.inj cut')).symm

/-- Whether a slash can be written behind the text of an address: nothing was dropped from its end,
or what was dropped does not come to stand behind the server. -/
def isJoinable (s : String) : Bool :=
  dropped s.toList == [] || (cutScheme? (significant s.toList)).any fun cut => !endsInServer cut.2

section

variable {s : String} {base url : Url} (parsed : parse s = .ok base) (network : IsNetwork base.scheme)
include parsed network

/-- Behind a text that can be written on, the server is read as it was before, and the rest for
itself. -/
theorem parse_of_joinable (joinable : isJoinable s = true) {rest : List Char}
    (cut : cutScheme? (significant s.toList) = some (base.scheme, rest)) (ds : List Char) :
    let read := cutSuffix base.scheme (rest ++ (dropped s.toList ++ '/' :: kept ds))
    parse (s ++ "/" ++ String.ofList ds) = .ok
      { base with
        path := readSegments base.scheme []
          (passSlash true (cutBefore (isSlash true) (read.1.dropWhile (isSlash true))).2)
        query := read.2.query
        fragment := read.2.fragment } := by
  intro read
  have cut' := cut_behind cut ds
  rw [parse_of_cut network cut] at parsed
  have below := readsBelow network.special parsed
  have server := serverText_eq base.scheme
  have served : serverText rest ≠ [] := server rest ▸ below.server
  have longer := serverText_append served (@edges_dropped s.toList) (kept ds)
  have nothing : (if endsInServer rest then dropped s.toList else []) = [] := by
    rw [isJoinable, cut] at joinable
    split
    next ends => simpa [ends] using joinable
    · rfl
  have same : serverText (rest ++ (dropped s.toList ++ '/' :: kept ds)) = serverText rest := by
    rw [longer, nothing, List.append_nil]
  rw [parse_of_cut network cut']
  exact below.again read.2 (read.1.dropWhile (isSlash true)) (by rw [server, server, same])

theorem joinable_of_parse {ds : List Char}
    (parsed' : parse (s ++ "/" ++ String.ofList ds) = .ok url) : isJoinable s = true := by
  obtain ⟨rest, cut⟩ := cut_of_parse parsed
  rw [parse_of_cut network cut] at parsed
  rw [parse_of_cut network (cut_behind cut ds)] at parsed'
  have below := readsBelow network.special parsed
  have server := serverText_eq base.scheme
  obtain ⟨_, read⟩ := server_of_readAuthority network.special parsed'
  rw [server] at read
  have nothing := inserted_of_readServer (server rest ▸ below.server) edges_dropped read
  rw [isJoinable, cut, Option.any_some]
  cases ends : endsInServer rest with
  | false => exact Bool.or_true _
  | true =>
    rw [ends, if_pos rfl] at nothing
    rw [nothing]
    rfl

/-- What is written behind an address makes another path of it, at the same server. -/
theorem parse_behind {ds : List Char}
    (parsed' : parse (s ++ "/" ++ String.ofList ds) = .ok url) :
    ∃ path query fragment, url = { base with path, query, fragment } := by
  obtain ⟨rest, cut⟩ := cut_of_parse parsed
  have joinable := joinable_of_parse parsed network parsed'
  rw [parse_of_joinable parsed network joinable cut] at parsed'
  cases parsed'
  exact ⟨_, _, _, rfl⟩

end

/-! ### In front of what was written behind -/

theorem cutScheme?_eq_some_iff {cs scheme rest : List Char} :
    cutScheme? cs = some (scheme, rest) ↔
      ∃ first front, cs = first :: front ++ ':' :: rest ∧ first.isAlpha = true ∧
        (first :: front).all isSchemeChar = true ∧ (first :: front).map Char.toLower = scheme := by
  constructor
  · intro cut
    rcases cutAt_cases ':' cs with ⟨_, uncut⟩ | ⟨front, behind, rfl, _, atColon⟩
    · unfold cutScheme? at cut
      rw [uncut] at cut
      split at cut
      next impossible => cases impossible
      · cases cut
    · unfold cutScheme? at cut
      rw [atColon] at cut
      cases front with
      | nil =>
        have colon : ':'.isAlpha = false := by decide
        simp [colon] at cut
      | cons first front =>
        simp only [List.cons_append] at cut
        split at cut
        next legal =>
          cases cut
          obtain ⟨alpha, chars⟩ := Bool.and_eq_true_iff.mp legal
          exact ⟨first, front, rfl, alpha, chars, rfl⟩
        · cases cut
  · rintro ⟨first, front, rfl, alpha, chars, rfl⟩
    have free : ':' ∉ first :: front := by
      intro among
      have char := List.all_eq_true.mp chars ':' among
      cases char
    unfold cutScheme?
    rw [cutAt_of_notMem free, cutAt_mark, List.append_nil]
    simp only [List.cons_append, alpha, chars, Bool.and_self, if_true]

/-- A scheme that is read over a character that has no place in it was there before. -/
theorem cutScheme?_before {cs ds scheme rest : List Char} {c : Char}
    (stops : isSchemeChar c = false ∧ c ≠ ':')
    (cut : cutScheme? (cs ++ c :: ds) = some (scheme, rest)) :
    ∃ front, rest = front ++ c :: ds ∧ cutScheme? cs = some (scheme, front) := by
  obtain ⟨first, front, written, alpha, chars, same⟩ := cutScheme?_eq_some_iff.mp cut
  rcases List.append_eq_append_iff.mp written with ⟨inside, begins, ends⟩ | ⟨inside, rfl, ends⟩
  · -- the colon would be behind the character, but what is in front of it belongs to the scheme
    cases inside with
    | nil =>
      cases ends
      exact absurd rfl stops.2
    | cons d inside =>
      cases ends
      rw [begins] at chars
      simp [stops.1] at chars
  · cases inside with
    | nil =>
      cases ends
      exact absurd rfl stops.2
    | cons colon inside =>
      cases ends
      exact ⟨inside, rfl, cutScheme?_eq_some_iff.mpr ⟨first, front, rfl, alpha, chars, same⟩⟩

private theorem getLast?_significant {cs : List Char} {last : Char}
    (ends : cs.getLast? = some last) (visible : isEdge last = false) :
    (significant cs).getLast? = some last := by
  have unbroken : isBreak last = false := by
    rw [← Bool.not_eq_true]
    intro broken
    rcases (by simpa [isBreak] using broken : last = '\t' ∨ last = '\n' ∨ last = '\r') with
      rfl | rfl | rfl <;> cases visible
  obtain ⟨front, rfl⟩ := List.getLast?_eq_some_iff.mp ends
  have cleaned : significant (front ++ [last]) =
      withoutBreaks (trimEndOf isEdge ((front ++ [last]).dropWhile isEdge)) := rfl
  rw [cleaned, dropWhile_append_cons visible, trimEndOf_append_cons visible, withoutBreaks_append]
  simp [withoutBreaks, unbroken, trimEndOf]

/-- Behind something that is no slash, a slash ends the text of a server or belongs to its path. -/
private theorem serverText_before {cs : List Char} {last : Char}
    (ends : cs.getLast? = some last) (slashless : isSlash true last = false) (ds : List Char) :
    serverText (cs ++ '/' :: ds) = serverText cs := by
  unfold serverText
  rcases takeWhile_append_cases isFront cs ('/' :: ds) with same | ⟨whole, further⟩
  · rw [same]
  · have begun : (cs.dropWhile (isSlash true)).isEmpty = false := by
      rw [List.isEmpty_eq_false_iff]
      intro nothing
      have slash := List.dropWhile_eq_nil_iff.mp nothing last (List.mem_of_getLast? ends)
      rw [slashless] at slash
      cases slash
    rw [further, whole, List.takeWhile_cons_of_pos (by decide), List.dropWhile_append, begun,
      if_neg Bool.false_ne_true, cutBefore_append]

/-- A text that can be written on to an address is itself one, at the same server, if it ends in
something that counts. -/
theorem parse_before {s : String} {url : Url} {last : Char} (ends : s.toList.getLast? = some last)
    (visible : isEdge last = false) (slashless : isSlash true last = false) (other : last ≠ ':')
    {ds : List Char} (parsed : parse (s ++ "/" ++ String.ofList ds) = .ok url)
    (network : IsNetwork url.scheme) :
    ∃ path query fragment, parse s = .ok { url with path, query, fragment } := by
  obtain ⟨rest, cut⟩ := cut_of_parse parsed
  rw [parse_of_cut network cut] at parsed
  have seen : EndsVisibly s.toList := by
    intro c here
    rw [ends] at here
    cases here
    exact visible
  rw [toList_slash, significant_append seen] at cut
  obtain ⟨front, rfl, before⟩ := cutScheme?_before (by decide) cut
  -- what stands behind the colon ends as the text does
  have last' : front.getLast? = some last := by
    obtain ⟨_, _, whole, _⟩ := cutScheme?_eq_some_iff.mp before
    have tail := getLast?_significant ends visible
    rw [whole, List.getLast?_append, List.getLast?_cons, Option.some_or] at tail
    cases behind : front.getLast? with
    | none =>
      rw [behind] at tail
      exact absurd (Option.some.inj tail).symm other
    | some c =>
      rw [behind] at tail
      exact tail
  have again := (readsBelow network.special parsed).again (cutSuffix url.scheme front).2
    ((cutSuffix url.scheme front).1.dropWhile (isSlash true))
    (by rw [serverText_eq, serverText_eq, serverText_before last' slashless])
  rw [parse_of_cut network before]
  exact ⟨_, _, _, again⟩

end TeacherRegistry.Url
