import Mathlib.Data.List.TakeWhile
import TeacherRegistry.Url.Parser

/-!
# Addresses below an address

A network address without query and fragment may be written on behind its end, with a slash in
between. Scheme, credentials, host and port stay what they are; the path goes on below the one that
was there, and what is written is read for itself: cleaned, cut into segments, query and fragment.
-/

namespace TeacherRegistry.Url

open TeacherRegistry.Text (trimEndOf)

/-! ### Cleaning -/

/-- Characters that are dropped from both ends of an address. -/
def isEdge (c : Char) : Bool :=
  c.toNat ≤ 0x20

/-- Whether nothing is dropped from the end of a text. -/
def EndsVisibly (cs : List Char) : Prop :=
  ∀ c, cs.getLast? = some c → isEdge c = false

/-- What is kept of a text behind a slash. -/
def kept (cs : List Char) : List Char :=
  withoutBreaks (trimEndOf isEdge cs)

theorem toList_slash (s : String) (ds : List Char) :
    (s ++ "/" ++ String.ofList ds).toList = s.toList ++ '/' :: ds := by
  simp only [String.toList_append, String.toList_ofList, List.append_assoc]
  rfl

theorem dropWhile_append_cons {p : Char → Bool} {c : Char} (stays : p c = false)
    (cs ds : List Char) : (cs ++ c :: ds).dropWhile p = cs.dropWhile p ++ c :: ds := by
  rw [List.dropWhile_append]
  split
  next all => rw [List.isEmpty_iff.mp all, List.dropWhile_cons_of_neg (by rw [stays]; decide),
    List.nil_append]
  · rfl

theorem trimEndOf_append_cons {p : Char → Bool} {c : Char} (stays : p c = false)
    (cs ds : List Char) : trimEndOf p (cs ++ c :: ds) = cs ++ c :: trimEndOf p ds := by
  -- trimming comes from behind, so what it meets first is `ds`
  rw [trimEndOf, List.reverse_append, List.reverse_cons, List.append_assoc, List.singleton_append,
    dropWhile_append_cons stays, List.reverse_append, List.reverse_cons, List.reverse_reverse,
    List.append_assoc, List.singleton_append, ← trimEndOf]

theorem trimEndOf_of_visible {cs : List Char} (visible : EndsVisibly cs) :
    trimEndOf isEdge cs = cs := by
  rcases List.eq_nil_or_concat cs with rfl | ⟨front, last, rfl⟩
  · rfl
  · rw [List.concat_eq_append] at *
    have stays := visible last List.getLast?_concat
    rw [trimEndOf_append_cons stays]
    rfl

theorem EndsVisibly.dropWhile {cs : List Char} (visible : EndsVisibly cs) (p : Char → Bool) :
    EndsVisibly (cs.dropWhile p) := by
  intro c last
  refine visible c ?_
  rw [← List.takeWhile_append_dropWhile (p := p) (l := cs), List.getLast?_append, last,
    Option.some_or]

theorem withoutBreaks_append (cs ds : List Char) :
    withoutBreaks (cs ++ ds) = withoutBreaks cs ++ withoutBreaks ds := by
  rw [withoutBreaks, List.filter_append]
  rfl

/-- Behind a visible end a text goes on as it is. -/
theorem significant_append {cs : List Char} (visible : EndsVisibly cs) (ds : List Char) :
    significant (cs ++ '/' :: ds) = significant cs ++ '/' :: kept ds := by
  have slash : isEdge '/' = false := by decide
  have cleaned : ∀ es, significant es = withoutBreaks (trimEndOf isEdge (es.dropWhile isEdge)) :=
    fun _ => rfl
  rw [cleaned, cleaned, dropWhile_append_cons slash, trimEndOf_append_cons slash,
    trimEndOf_of_visible (visible.dropWhile isEdge), withoutBreaks_append]
  rfl

/-! ### Cutting -/

theorem cutAt_of_notMem {mark : Char} {cs : List Char} (free : mark ∉ cs) (ds : List Char) :
    cutAt mark (cs ++ ds) = (cs ++ (cutAt mark ds).1, (cutAt mark ds).2) := by
  have passes : ∀ c ∈ cs, decide (c ≠ mark) = true := fun c among =>
    decide_eq_true fun same => free (same ▸ among)
  unfold cutAt
  rw [List.dropWhile_append_of_pos passes]
  split
  · rfl
  · rw [List.takeWhile_append_of_pos passes]

theorem cutAt_mark (mark : Char) (ds : List Char) : cutAt mark (mark :: ds) = ([], some ds) := by
  simp [cutAt]

theorem cutAt_of_free {mark : Char} {cs : List Char} (free : mark ∉ cs) :
    cutAt mark cs = (cs, none) := by
  have whole := cutAt_of_notMem free []
  rw [List.append_nil] at whole
  rw [whole]
  simp [cutAt]

/-- A text is cut at the first mark, or there is no mark in it. -/
theorem cutAt_cases (mark : Char) (cs : List Char) :
    (mark ∉ cs ∧ cutAt mark cs = (cs, none)) ∨
      ∃ front rest, cs = front ++ mark :: rest ∧ mark ∉ front ∧
        cutAt mark cs = (front, some rest) := by
  by_cases among : mark ∈ cs
  · obtain ⟨front, rest, rfl, first⟩ := List.eq_append_cons_of_mem among
    refine Or.inr ⟨front, rest, rfl, first, ?_⟩
    rw [cutAt_of_notMem first, cutAt_mark, List.append_nil]
  · exact Or.inl ⟨among, cutAt_of_free among⟩

theorem notMem_of_cutAt {mark : Char} {cs : List Char} (uncut : (cutAt mark cs).2 = none) :
    mark ∉ cs ∧ cutAt mark cs = (cs, none) := by
  rcases cutAt_cases mark cs with whole | ⟨front, rest, _, _, cut⟩
  · exact whole
  · rw [cut] at uncut
    cases uncut

/-- The scheme of an address does not depend on what is written behind its colon. -/
theorem cutScheme?_append {cs scheme rest : List Char} (cut : cutScheme? cs = some (scheme, rest))
    (ds : List Char) : cutScheme? (cs ++ ds) = some (scheme, rest ++ ds) := by
  -- there is a scheme, so there is a colon, and the first one stays the first
  rcases cutAt_cases ':' cs with ⟨_, uncut⟩ | ⟨front, behind, rfl, first, atColon⟩
  · unfold cutScheme? at cut
    rw [uncut] at cut
    split at cut
    next impossible => cases impossible
    · cases cut
  · have further : cutAt ':' (front ++ ':' :: behind ++ ds) = (front, some (behind ++ ds)) := by
      rw [List.append_assoc, cutAt_of_notMem first, List.cons_append, cutAt_mark, List.append_nil]
    unfold cutScheme? at cut ⊢
    rw [atColon] at cut
    rw [further]
    cases front with
    | nil =>
      have colon : ':'.isAlpha = false := by decide
      simp [colon] at cut
    | cons c front =>
      simp only [List.cons_append] at cut ⊢
      split at cut
      next legal =>
        cases cut
        rw [if_pos legal]
      · cases cut

/-- A text without query and fragment is all front. -/
theorem cutSuffix_append {scheme cs : List Char} (noQuery : (cutSuffix scheme cs).2.query = none)
    (noFragment : (cutSuffix scheme cs).2.fragment = none) (ds : List Char) :
    (cutSuffix scheme cs).1 = cs ∧
      cutSuffix scheme (cs ++ ds) = (cs ++ (cutSuffix scheme ds).1, (cutSuffix scheme ds).2) := by
  simp only [cutSuffix, Option.map_eq_none_iff] at noQuery noFragment ⊢
  obtain ⟨noHash, whole⟩ := notMem_of_cutAt noFragment
  rw [whole] at noQuery ⊢
  obtain ⟨noMark, whole'⟩ := notMem_of_cutAt noQuery
  rw [whole', cutAt_of_notMem noHash]
  simp only
  rw [cutAt_of_notMem noMark]
  exact ⟨trivial, rfl⟩

theorem takeWhile_append_cons {p : Char → Bool} {c : Char} (stops : p c = false)
    (cs ds : List Char) : (cs ++ c :: ds).takeWhile p = cs.takeWhile p := by
  rw [List.takeWhile_append]
  split
  next all =>
    rw [List.takeWhile_cons_of_neg (by rw [stops]; decide), List.append_nil]
    exact ((List.takeWhile_prefix p).eq_of_length all).symm
  · rfl

/-- What is written behind a text with a slash in between is behind the first slash. -/
theorem cutBefore_append (cs ds : List Char) :
    cutBefore (isSlash true) (cs ++ '/' :: ds) =
      ((cutBefore (isSlash true) cs).1, (cutBefore (isSlash true) cs).2 ++ '/' :: ds) := by
  have slash : (fun c => !isSlash true c) '/' = false := by decide
  unfold cutBefore
  rw [takeWhile_append_cons slash, dropWhile_append_cons slash]

theorem isSlash_of_cutBefore {cs : List Char} {c : Char}
    (first : (cutBefore (isSlash true) cs).2.head? = some c) : isSlash true c = true := by
  have stops := List.head?_dropWhile_not (fun c => !isSlash true c) cs
  rw [cutBefore] at first
  rw [first] at stops
  simpa using stops

theorem isEmpty_of_cutBefore {cs : List Char} (filled : (cutBefore (isSlash true) cs).1 ≠ []) :
    cs.isEmpty = false := by
  rw [List.isEmpty_eq_false_iff]
  rintro rfl
  exact filled rfl

/-! ### Reading a server -/

/-- What is read off an authority: everything in front of the path. -/
def readServer (scheme authority : List Char) : Except Error Url := do
  let (userInfo, address) := cutAtLast '@' authority
  let (username, password) := readUserInfo (userInfo.getD [])
  let (hostText, portText) := cutPort false address
  if hostText = [] then throw .emptyHost
  let host ← specialHost hostText
  let port ← readPort scheme (portText.getD [])
  return { scheme, username, password, host := some host, port, path := .rooted [],
           query := none, fragment := none }

/-- A server is read without regard to path, query and fragment. -/
theorem readAuthority_special {scheme : List Char} (special : isSpecial scheme = true)
    (suffix : Suffix) (cs : List Char) :
    readAuthority scheme suffix cs =
      (readServer scheme (cutBefore (isSlash true) cs).1).map fun url =>
        { url with
          path := readSegments scheme [] (passSlash true (cutBefore (isSlash true) cs).2)
          query := suffix.query
          fragment := suffix.fragment } := by
  unfold readAuthority readServer
  simp only [special]
  generalize cutBefore (isSlash true) cs = parts
  obtain ⟨authority, path⟩ := parts
  generalize cutAtLast '@' authority = parts
  obtain ⟨userInfo, address⟩ := parts
  generalize readUserInfo (userInfo.getD []) = parts
  obtain ⟨username, password⟩ := parts
  -- an address without host is refused in one way or another
  by_cases bare : address = []
  · subst bare
    simp only [cutPort, and_self, if_true]
    split <;> rfl
  · rw [if_neg (fun all => bare all.2.1)]
    generalize cutPort false address = parts
    obtain ⟨hostText, portText⟩ := parts
    by_cases nameless : hostText = []
    · simp only [nameless, and_self, if_true]
      rfl
    · simp only [nameless, and_false, if_false, if_true, true_or, List.nil_append, false_and]
      cases specialHost hostText with
      | error e => rfl
      | ok host =>
        simp only [bind, Except.bind]
        cases readPort scheme (portText.getD []) <;> rfl

/-- What is known of an address of a special scheme that has been read. -/
structure ReadsBelow (scheme : List Char) (suffix : Suffix) (cs : List Char) (url : Url) :
    Prop where
  server : (cutBefore (isSlash true) cs).1 ≠ []
  path : url.path = readSegments scheme [] (passSlash true (cutBefore (isSlash true) cs).2)
  query : url.query = suffix.query
  fragment : url.fragment = suffix.fragment
  again : ∀ suffix' cs', (cutBefore (isSlash true) cs').1 = (cutBefore (isSlash true) cs).1 →
    readAuthority scheme suffix' cs' = .ok
      { url with
        path := readSegments scheme [] (passSlash true (cutBefore (isSlash true) cs').2)
        query := suffix'.query
        fragment := suffix'.fragment }

theorem readsBelow {scheme : List Char} (special : isSpecial scheme = true) {suffix : Suffix}
    {cs : List Char} {url : Url} (read : readAuthority scheme suffix cs = .ok url) :
    ReadsBelow scheme suffix cs url := by
  rw [readAuthority_special special] at read
  cases server : readServer scheme (cutBefore (isSlash true) cs).1 with
  | error e =>
    rw [server] at read
    cases read
  | ok url =>
    rw [server] at read
    cases read
    refine ⟨?_, rfl, rfl, rfl, ?_⟩
    · intro nothing
      rw [nothing] at server
      cases server
    · intro suffix' cs' same
      rw [readAuthority_special special, same, server]
      rfl

theorem scheme_of_readAuthority {scheme cs : List Char} {suffix : Suffix} {url : Url}
    (read : readAuthority scheme suffix cs = .ok url) : url.scheme = scheme := by
  unfold readAuthority at read
  generalize cutBefore (isSlash (isSpecial scheme)) cs = parts at read
  obtain ⟨authority, path⟩ := parts
  generalize cutAtLast '@' authority = parts at read
  obtain ⟨userInfo, address⟩ := parts
  generalize readUserInfo (userInfo.getD []) = parts at read
  obtain ⟨username, password⟩ := parts
  generalize cutPort false address = parts at read
  obtain ⟨hostText, portText⟩ := parts
  simp only [bind, Except.bind, throw, throwThe, MonadExceptOf.throw, pure, Except.pure] at read
  -- every way through ends in a refusal or in an address of this scheme
  repeat' split at read
  all_goals cases read
  all_goals rfl

theorem scheme_of_readFile {written : List Char} {suffix : Suffix} {url : Url}
    (read : readFile suffix written = .ok url) : url.scheme = fileScheme := by
  unfold readFile at read
  simp only [bind, Except.bind, pure, Except.pure] at read
  split at read <;> cases read
  rfl

theorem scheme_of_readPlain {scheme cs : List Char} {suffix : Suffix} {url : Url}
    (read : readPlain scheme suffix cs = .ok url) : url.scheme = scheme := by
  unfold readPlain at read
  split at read
  · exact scheme_of_readAuthority read
  · cases read
    rfl
  · cases read
    rfl

theorem scheme_of_readAfterScheme {scheme rest written : List Char} {url : Url}
    (read : readAfterScheme scheme rest written = .ok url) : url.scheme = scheme := by
  unfold readAfterScheme at read
  simp only at read
  split at read
  next file => exact (scheme_of_readFile read).trans file.symm
  · split at read
    · exact scheme_of_readAuthority read
    · exact scheme_of_readPlain read

/-- The scheme of a network address. -/
structure IsNetwork (scheme : List Char) : Prop where
  special : isSpecial scheme = true
  notFile : scheme ≠ fileScheme

theorem isNetwork_of_isHttp {url : Url} (http : url.isHttp = true) : IsNetwork url.scheme := by
  rcases Bool.or_eq_true_iff.mp http with same | same
  · rw [eq_of_beq same]
    exact ⟨by decide, by decide⟩
  · rw [eq_of_beq same]
    exact ⟨by decide, by decide⟩

theorem readAfterScheme_network {scheme : List Char} (network : IsNetwork scheme)
    (rest written : List Char) : readAfterScheme scheme rest written =
      readAuthority scheme (cutSuffix scheme rest).2
        ((cutSuffix scheme rest).1.dropWhile (isSlash true)) := by
  simp only [readAfterScheme, network.notFile, network.special, if_false, if_true]

/-! ### Reading a path -/

/-- Appends segments each of which is followed by a slash. -/
def pushInner (scheme : List Char) (above segments : List (List Char)) : List (List Char) :=
  segments.foldl (fun above segment => pushSegment scheme above segment false) above

theorem pushInner_concat (scheme : List Char) (above front : List (List Char)) (last : List Char) :
    pushInner scheme above (front ++ [last]) =
      pushSegment scheme (pushInner scheme above front) last false := by
  rw [pushInner, List.foldl_append]
  rfl

theorem pushSegments_append (scheme : List Char) (above segments : List (List Char))
    {later : List (List Char)} (filled : later ≠ []) :
    pushSegments scheme above (segments ++ later) =
      pushSegments scheme (pushInner scheme above segments) later := by
  induction segments generalizing above with
  | nil => rfl
  | cons segment rest ih =>
    rw [List.cons_append, pushSegments, ih]
    · rfl
    · intro nothing
      exact filled (List.append_eq_nil_iff.mp nothing).2

section

variable {scheme : List Char} (network : IsNetwork scheme)
include network

/-- What becomes of one segment of a network address. -/
theorem pushSegment_network (above : List (List Char)) (written : List Char) (last : Bool) :
    pushSegment scheme above written last =
      if isDoubleDot (withoutBreaks written) then
        dropSegment scheme above ++ (if last then [[]] else [])
      else if isSingleDot (withoutBreaks written) then above ++ (if last then [[]] else [])
      else above ++ [percentEncode pathEscapes (withoutBreaks written)] := by
  have notFile := network.notFile
  simp only [pushSegment, notFile, false_and, if_false]

/-- Only dots at the end of a path leave another trace there than in its middle. -/
theorem pushSegment_last (above : List (List Char)) (written : List Char) :
    pushSegment scheme above written true = pushSegment scheme above written false ∨
      pushSegment scheme above written true = pushSegment scheme above written false ++ [[]] := by
  rw [pushSegment_network network, pushSegment_network network]
  split
  · exact Or.inr (by rw [if_pos rfl, if_neg Bool.false_ne_true, List.append_nil])
  · split
    · exact Or.inr (by rw [if_pos rfl, if_neg Bool.false_ne_true, List.append_nil])
    · exact Or.inl rfl

theorem pushSegments_inner (above : List (List Char)) {segments : List (List Char)}
    (filled : segments ≠ []) :
    pushSegments scheme above segments = pushInner scheme above segments ∨
      pushSegments scheme above segments = pushInner scheme above segments ++ [[]] := by
  rcases List.eq_nil_or_concat segments with rfl | ⟨front, last, rfl⟩
  · exact absurd rfl filled
  · rw [List.concat_eq_append, pushSegments_append scheme above front (List.cons_ne_nil last []),
      pushInner_concat]
    exact pushSegment_last network _ last

/-- The last segment of a path is empty after dots, and else what was written last. -/
theorem getLast?_pushSegments (above front : List (List Char)) (last : List Char) :
    (pushSegments scheme above (front ++ [last])).getLast? =
      if isDoubleDot (withoutBreaks last) ∨ isSingleDot (withoutBreaks last) then some []
      else some (percentEncode pathEscapes (withoutBreaks last)) := by
  rw [pushSegments_append scheme above front (List.cons_ne_nil last []), pushSegments,
    pushSegment_network network]
  by_cases double : isDoubleDot (withoutBreaks last) = true
  · rw [if_pos double, if_pos (Or.inl double), if_pos rfl, List.getLast?_concat]
  · rw [if_neg double]
    by_cases single : isSingleDot (withoutBreaks last) = true
    · rw [if_pos single, if_pos (Or.inr single), if_pos rfl, List.getLast?_concat]
    · rw [if_neg single, if_neg (fun dots => dots.elim double single), List.getLast?_concat]

theorem readSegments_network (above : List (List Char)) (cs : List Char) :
    readSegments scheme above cs = .rooted (pushSegments scheme above (cutSegments true cs)) := by
  simp only [readSegments, network.notFile, network.special, if_false]

/-- A path that is written on goes on below what it was, apart from an empty last segment. -/
theorem readSegments_below {cs : List Char}
    (rooted : ∀ c, cs.head? = some c → isSlash true c = true) :
    ∃ above, (readSegments scheme [] (passSlash true cs) = .rooted above ∨
        readSegments scheme [] (passSlash true cs) = .rooted (above ++ [[]])) ∧
      (∀ ds, readSegments scheme [] (passSlash true (cs ++ '/' :: ds)) =
        .rooted (pushSegments scheme above (cutSegments true ds))) ∧
      ∀ c rest, cs = c :: rest → above = pushInner scheme [] (cutSegments true rest) := by
  have slash : isSlash true '/' = true := rfl
  simp only [readSegments_network network]
  cases cs with
  | nil =>
    -- a bare server has an empty segment for its path, and what is written behind it replaces that
    refine ⟨[], Or.inr ?_, fun ds => rfl, fun _ _ impossible => by cases impossible⟩
    simp only [passSlash, cutSegments, List.splitOnP_nil, pushSegments]
    rw [pushSegment_network network]
    rfl
  | cons c cs =>
    have passed : ∀ ds, passSlash true (c :: ds) = ds := fun ds => by
      simp only [passSlash, rooted c rfl, if_true]
    have filled : cutSegments true cs ≠ [] := List.splitOnP_ne_nil _ _
    refine ⟨pushInner scheme [] (cutSegments true cs), ?_, fun ds => ?_, fun _ _ same => ?_⟩
    · rw [passed]
      rcases pushSegments_inner network [] filled with same | same
      · exact Or.inl (by rw [same])
      · exact Or.inr (by rw [same])
    · rw [List.cons_append, passed]
      simp only [cutSegments]
      rw [List.splitOnP_append_cons _ _ slash,
        pushSegments_append _ _ _ (List.splitOnP_ne_nil _ _)]
    · cases same
      rfl

end

/-! ### Reading on -/

/-- How a network address is read. -/
theorem parse_of_cut {s : String} {scheme rest : List Char} (network : IsNetwork scheme)
    (cut : cutScheme? (significant s.toList) = some (scheme, rest)) :
    parse s = readAuthority scheme (cutSuffix scheme rest).2
      ((cutSuffix scheme rest).1.dropWhile (isSlash true)) := by
  rw [parse, cut]
  exact readAfterScheme_network network rest _

theorem cut_of_parse {s : String} {url : Url} (parsed : parse s = .ok url) :
    ∃ rest, cutScheme? (significant s.toList) = some (url.scheme, rest) := by
  unfold parse at parsed
  split at parsed
  · cases parsed
  next scheme rest cut => exact ⟨rest, by rw [scheme_of_readAfterScheme parsed, cut]⟩

/-- A network address without query and fragment can be written on behind its visible end. -/
theorem parse_below {s : String} {base : Url} (parsed : parse s = .ok base)
    (network : IsNetwork base.scheme) (noQuery : base.query = none)
    (noFragment : base.fragment = none) (visible : EndsVisibly s.toList) :
    ∃ above, (base.path = .rooted above ∨ base.path = .rooted (above ++ [[]])) ∧
      ∀ ds, parse (s ++ "/" ++ String.ofList ds) = .ok
        { base with
          path := .rooted (pushSegments base.scheme above
            (cutSegments true (cutSuffix base.scheme (kept ds)).1))
          query := (cutSuffix base.scheme (kept ds)).2.query
          fragment := (cutSuffix base.scheme (kept ds)).2.fragment } := by
  obtain ⟨rest, cut⟩ := cut_of_parse parsed
  rw [parse_of_cut network cut] at parsed
  have below := readsBelow network.special parsed
  -- without query and fragment the whole rest was server and path, and what follows goes on from it
  have whole := cutSuffix_append (below.query.symm.trans noQuery)
    (below.fragment.symm.trans noFragment)
  rw [(whole []).1] at below
  -- the server stands between the slashes in front of it and the path
  have served := isEmpty_of_cutBefore below.server
  obtain ⟨above, path, further, _⟩ := readSegments_below network fun _ => isSlash_of_cutBefore
  refine ⟨above, ?_, fun ds => ?_⟩
  · rw [below.path]
    exact path
  · have cut' : cutScheme? (significant (s ++ "/" ++ String.ofList ds).toList) =
        some (base.scheme, rest ++ '/' :: kept ds) := by
      rw [toList_slash, significant_append visible]
      exact cutScheme?_append cut _
    have slashed : ∀ es, cutSuffix base.scheme ('/' :: es) =
        ('/' :: (cutSuffix base.scheme es).1, (cutSuffix base.scheme es).2) := fun es =>
      (@cutSuffix_append base.scheme ['/'] rfl rfl es).2
    rw [parse_of_cut network cut', (whole _).2, slashed, List.dropWhile_append, served,
      if_neg Bool.false_ne_true, below.again _ _ (by rw [cutBefore_append]), cutBefore_append,
      further]

end TeacherRegistry.Url
