import TeacherRegistry.Proofs.AcceptedBases
import TeacherRegistry.Proofs.PlainSegments

/-!
# Paths below the configured one

The path of a request is written behind the text of the configured address, and read with it. So it
comes to stand below the configured path only if that text ends in its path: without query and
fragment, without blanks at the end, and with no other slash at the end than those that are taken
off. Otherwise the configured path is changed, or what was written is no part of the path.
-/

namespace TeacherRegistry

namespace Url

open TeacherRegistry.Text (trimEndOf)

/-- The text of the path of an address. -/
def pathText (url : Url) : List Char :=
  url.path.text url.host.isSome

/-- Whether a character is an ASCII letter or digit, a hyphen, an underscore or a slash. -/
def isPathChar (c : Char) : Bool :=
  c.isAlphanum || c == '-' || c == '_' || c == '/'

/-! ### Plain paths -/

/-- What a character of a plain path is to the reader of an address: itself. -/
structure IsPlainChar (c : Char) : Prop where
  visible : isEdge c = false
  front : isFront c = true
  slash : isSlash true c = true → c = '/'
  notDot : c ≠ '.'
  notPercent : c ≠ '%'
  encoded : percentChar pathEscapes c = [c]

instance (c : Char) : Decidable (IsPlainChar c) :=
  decidable_of_iff (isEdge c = false ∧ isFront c = true ∧ (isSlash true c = true → c = '/') ∧
      c ≠ '.' ∧ c ≠ '%' ∧ percentChar pathEscapes c = [c])
    ⟨fun ⟨visible, front, slash, notDot, notPercent, encoded⟩ =>
      ⟨visible, front, slash, notDot, notPercent, encoded⟩,
    fun plain => ⟨plain.visible, plain.front, plain.slash, plain.notDot, plain.notPercent,
      plain.encoded⟩⟩

theorem isPlainChar_of_isPathChar {c : Char} (plain : isPathChar c = true) : IsPlainChar c := by
  have ascii : c.toNat < 128 := by
    simp only [isPathChar, Bool.or_eq_true, beq_iff_eq] at plain
    rcases plain with ((alphanumeric | rfl) | rfl) | rfl
    · exact ascii_of_isAlphanum alphanumeric
    all_goals decide
  exact of_ascii (p := fun c => isPathChar c = true → IsPlainChar c) (by decide +kernel) ascii plain

theorem kept_of_plain {ds : List Char} (plain : ∀ c ∈ ds, IsPlainChar c) : kept ds = ds :=
  kept_of_visible fun c among => (plain c among).visible

section

variable {scheme : List Char} (network : IsNetwork scheme) (above : List (List Char))
include network

theorem pushSegment_plain {segment : List Char} (plain : ∀ c ∈ segment, IsPlainChar c)
    (last : Bool) : pushSegment scheme above segment last = above ++ [segment] := by
  have unbroken : withoutBreaks segment = segment :=
    withoutBreaks_of_visible fun c among => (plain c among).visible
  have unescaped : hasEscape segment = false :=
    hasEscape_of_notMem fun percent => (plain '%' percent).notPercent rfl
  have dotless : '.' ∉ segment := fun dot => (plain '.' dot).notDot rfl
  have encoded : percentEncode pathEscapes segment = segment := by
    rw [percentEncode, List.flatMap_congr fun c member => (plain c member).encoded]
    exact List.flatMap_singleton' segment
  rw [pushSegment_network network, unbroken, encoded, if_neg, if_neg]
  · intro single
    rcases isSingleDot_cases single with rfl | escape
    · exact dotless List.mem_cons_self
    · rw [unescaped] at escape
      cases escape
  · intro double
    rcases isDoubleDot_cases double with rfl | escape
    · exact dotless List.mem_cons_self
    · rw [unescaped] at escape
      cases escape

/-- Plain segments are appended as they are. -/
theorem pushSegments_plain {segments : List (List Char)}
    (plain : ∀ segment ∈ segments, ∀ c ∈ segment, IsPlainChar c) :
    pushSegments scheme above segments = above ++ segments := by
  induction segments generalizing above with
  | nil => rw [pushSegments, List.append_nil]
  | cons segment rest ih =>
    obtain ⟨first, others⟩ := List.forall_mem_cons.mp plain
    cases rest with
    | nil => rw [pushSegments, pushSegment_plain network above first]
    | cons next rest =>
      rw [pushSegments, pushSegment_plain network above first, ih _ others, List.append_assoc]
      · rfl
      · exact List.cons_ne_nil next rest

end

/-- A text that is cut at its slashes is written again with them. -/
theorem segmentsText_cutSegments {cs : List Char}
    (slashes : ∀ c ∈ cs, isSlash true c = true → c = '/') :
    segmentsText (cutSegments true cs) = '/' :: cs := by
  induction cs with
  | nil => rfl
  | cons c rest ih =>
    have again := ih fun d among => slashes d (List.mem_cons_of_mem c among)
    rw [cutSegments] at again ⊢
    rw [List.splitOnP_cons_eq_if_modifyHead]
    split
    next slash =>
      rw [slashes c List.mem_cons_self slash, ← again]
      rfl
    next other =>
      cases pieces : rest.splitOnP (isSlash true) with
      | nil => exact absurd pieces (List.splitOnP_ne_nil _ _)
      | cons first later =>
        rw [pieces] at again
        rw [List.modifyHead_cons]
        simp only [segmentsText, List.flatMap_cons, List.cons_append, List.cons.injEq,
          true_and] at again ⊢
        exact again

/-! ### What is written on -/

theorem cutSuffix_bare_iff (scheme cs : List Char) :
    ((cutSuffix scheme cs).2.query = none ∧ (cutSuffix scheme cs).2.fragment = none) ↔
      cs.takeWhile isFront = cs := by
  rw [← cutSuffix_fst scheme]
  constructor
  · rintro ⟨noQuery, noFragment⟩
    exact (cutSuffix_append noQuery noFragment []).1
  · intro whole
    obtain ⟨_, noMark, noHash⟩ := cutSuffix_front scheme cs
    rw [whole] at noMark noHash
    simp only [cutSuffix, cutAt_of_free noHash, cutAt_of_free noMark]
    exact ⟨rfl, rfl⟩

theorem cutSuffix_of_bare {scheme cs : List Char} (bare : cs.takeWhile isFront = cs) :
    cutSuffix scheme cs = (cs, ⟨none, none⟩) := by
  obtain ⟨noQuery, noFragment⟩ := (cutSuffix_bare_iff scheme cs).mpr bare
  have front := (cutSuffix_fst scheme cs).trans bare
  generalize cutSuffix scheme cs = cut at *
  obtain ⟨written, query, fragment⟩ := cut
  cases front
  cases noQuery
  cases noFragment
  rfl

theorem segmentsText_append (segments later : List (List Char)) :
    segmentsText (segments ++ later) = segmentsText segments ++ segmentsText later :=
  List.flatMap_append

theorem text_rooted (segments : List (List Char)) :
    (Path.rooted segments).text true = segmentsText segments := by
  unfold Path.text
  split
  · cases ‹Path.rooted _ = _›
  · split <;> simp_all

theorem size_append (segments : List (List Char)) (last : List Char) :
    (segmentsText (segments ++ [last])).length =
      (segmentsText segments).length + 1 + last.length := by
  rw [segmentsText_append, List.length_append, Nat.add_assoc, Nat.add_comm 1]
  simp [segmentsText]

theorem length_trimEndOf_le (p : Char → Bool) (cs : List Char) :
    (trimEndOf p cs).length ≤ cs.length :=
  (trimEndOf_sublist p cs).length_le

theorem trimEndOf_concat {p : Char → Bool} {c : Char} (dropped : p c = true) (cs : List Char) :
    trimEndOf p (cs ++ [c]) = trimEndOf p cs :=
  List.rdropWhile_concat_pos p cs c dropped

theorem length_trimEndOf_slash (segments : List (List Char)) :
    (trimEndOf (· == '/') (segmentsText (segments ++ [[]]))).length ≤
      (segmentsText segments).length := by
  have text : segmentsText (segments ++ [[]]) = segmentsText segments ++ ['/'] :=
    segmentsText_append segments [[]]
  rw [text, trimEndOf_concat (by decide)]
  exact length_trimEndOf_le _ _

theorem dropSegment_sublist (scheme : List Char) (segments : List (List Char)) :
    (dropSegment scheme segments).Sublist segments := by
  unfold dropSegment
  split
  · split
    · exact List.Sublist.refl _
    · exact List.nil_sublist _
  · exact List.dropLast_sublist _

theorem segmentsText_sublist {segments others : List (List Char)} (part : segments.Sublist others) :
    (segmentsText segments).length ≤ (segmentsText others).length := by
  induction part with
  | slnil => exact Nat.le_refl _
  | cons segment _ ih =>
    simp only [segmentsText, List.flatMap_cons, List.length_append] at ih ⊢
    omega
  | cons_cons segment _ ih =>
    simp only [segmentsText, List.flatMap_cons, List.length_append] at ih ⊢
    omega

/-- What follows a text without slashes in it belongs to the last segment. -/
theorem cutSegments_append {inserted : List Char} (free : ∀ c ∈ inserted, isSlash true c = false)
    (cs : List Char) : ∃ front last, cutSegments true cs = front ++ [last] ∧
      cutSegments true (cs ++ inserted) = front ++ [last ++ inserted] := by
  induction cs with
  | nil => exact ⟨[], [], rfl, List.splitOnP_eq_singleton free⟩
  | cons c rest ih =>
    obtain ⟨front, last, pieces, further⟩ := ih
    simp only [cutSegments, List.cons_append, List.splitOnP_cons_eq_if_modifyHead]
      at pieces further ⊢
    rw [pieces, further]
    by_cases slash : isSlash true c = true
    · rw [if_pos slash, if_pos slash]
      exact ⟨[] :: front, last, rfl, rfl⟩
    · rw [if_neg slash, if_neg slash]
      cases front with
      | nil => exact ⟨[], c :: last, rfl, rfl⟩
      | cons first others => exact ⟨(c :: first) :: others, last, rfl, rfl⟩

theorem not_dots_of_edge {segment : List Char} {c : Char} (edge : isEdge c = true)
    (among : c ∈ segment) : isDoubleDot segment = false ∧ isSingleDot segment = false := by
  have visible : ∀ form ∈ dotForms, ∀ c ∈ form, isEdge c = false := by
    have each : ∀ form ∈ dotForms, form.all (isEdge · == false) = true := by decide
    exact fun form isForm c among => eq_of_beq (List.all_eq_true.mp (each form isForm) c among)
  constructor
  · refine Bool.eq_false_iff.mpr fun double => ?_
    simp only [isDoubleDot, List.any_eq_true] at double
    obtain ⟨a, isA, b, isB, same⟩ := double
    rw [← eq_of_beq same, List.mem_append] at among
    rcases among with here | here
    · rw [visible a isA c here] at edge
      cases edge
    · rw [visible b isB c here] at edge
      cases edge
  · refine Bool.eq_false_iff.mpr fun single => ?_
    rw [visible segment (List.contains_iff_mem.mp single) c among] at edge
    cases edge

/-- Blanks at the end of the last segment make the path longer than it was, whatever that segment
stood for. -/
theorem length_pushInner_lt {scheme : List Char} (network : IsNetwork scheme) {inserted : List Char}
    (filled : inserted ≠ []) (edges : ∀ c ∈ inserted, isEdge c = true)
    (unbroken : withoutBreaks inserted = inserted) (cs : List Char) :
    (trimEndOf (· == '/') (segmentsText (pushSegments scheme [] (cutSegments true cs)))).length <
      (segmentsText (pushInner scheme [] (cutSegments true (cs ++ inserted)))).length := by
  have free : ∀ c ∈ inserted, isSlash true c = false := fun c among =>
    of_edge (p := fun c => isSlash true c = false) (by decide) (edges c among)
  obtain ⟨front, last, pieces, further⟩ := cutSegments_append free cs
  rw [pieces, further, pushInner_concat, pushSegments_append _ _ _ (List.cons_ne_nil last []),
    pushSegments]
  generalize pushInner scheme [] front = inner
  -- with the blanks the last segment is none of the dots
  obtain ⟨c, others, rfl⟩ := List.exists_cons_of_ne_nil filled
  obtain ⟨double, single⟩ := @not_dots_of_edge (withoutBreaks last ++ c :: others) c
    (edges c List.mem_cons_self) (List.mem_append_right _ List.mem_cons_self)
  have encoded : percentEncode pathEscapes (withoutBreaks last ++ c :: others) =
      percentEncode pathEscapes (withoutBreaks last) ++ percentEncode pathEscapes (c :: others) :=
    List.flatMap_append
  have long : 0 < (percentEncode pathEscapes (c :: others)).length :=
    List.length_pos_iff.mpr (percentEncode_filled filled)
  rw [pushSegment_network network, pushSegment_network network, withoutBreaks_append, unbroken,
    double, single, if_neg Bool.false_ne_true, if_neg Bool.false_ne_true, encoded, size_append,
    List.length_append]
  split
  · have less := length_trimEndOf_slash (dropSegment scheme inner)
    have part := segmentsText_sublist (dropSegment_sublist scheme inner)
    rw [if_pos rfl]
    omega
  · split
    · have less := length_trimEndOf_slash inner
      rw [if_pos rfl]
      omega
    · have less := length_trimEndOf_le (· == '/')
        (segmentsText (inner ++ [percentEncode pathEscapes (withoutBreaks last)]))
      rw [size_append] at less
      omega

theorem host_of_parse {s : String} {url : Url} (parsed : parse s = .ok url)
    (network : IsNetwork url.scheme) : url.host.isSome = true := by
  obtain ⟨rest, cut⟩ := cut_of_parse parsed
  rw [parse_of_cut network cut, readAuthority_special network.special] at parsed
  cases server : readServer url.scheme (cutBefore (isSlash true)
      ((cutSuffix url.scheme rest).1.dropWhile (isSlash true))).1 with
  | error e =>
    rw [server] at parsed
    cases parsed
  | ok found =>
    have named : found.host.isSome = true := by
      unfold readServer at server
      simp only [bind, Except.bind, throw, throwThe, MonadExceptOf.throw, pure, Except.pure]
        at server
      repeat' split at server
      all_goals cases server
      all_goals rfl
    rw [server] at parsed
    rw [← Except.ok.inj parsed]
    exact named

theorem pathText_of_rooted {url : Url} (named : url.host.isSome = true)
    {segments : List (List Char)} (path : url.path = .rooted segments) :
    url.pathText = segmentsText segments := by
  rw [pathText, named, path, text_rooted]

/-- Plain segments below others show in the text of the path. -/
theorem pathText_of_below {url : Url} (named : url.host.isSome = true) {above : List (List Char)}
    {ds : List Char} (plain : ∀ c ∈ ds, IsPlainChar c)
    (path : url.path = .rooted (above ++ cutSegments true ds)) :
    url.pathText = segmentsText above ++ '/' :: ds := by
  rw [pathText_of_rooted named path, segmentsText_append,
    segmentsText_cutSegments fun c among => (plain c among).slash]

/-- Where a text ends behind the server there is a path. -/
theorem cutBefore_of_slashed {rest : List Char} (whole : rest.takeWhile isFront = rest)
    (slashed : endsInServer rest = false) :
    (cutBefore (isSlash true) (rest.dropWhile (isSlash true))).2 ≠ [] := by
  intro nothing
  rw [cutBefore, List.dropWhile_eq_nil_iff, ← List.takeWhile_eq_self_iff] at nothing
  rw [(endsInServer_iff rest).mpr ⟨whole, nothing⟩] at slashed
  cases slashed

theorem withoutBreaks_dropped (cs : List Char) : withoutBreaks (dropped cs) = dropped cs := by
  rw [dropped, withoutBreaks, withoutBreaks, List.filter_filter]
  simp

section

variable {s : String} {base : Url} (parsed : parse s = .ok base) (network : IsNetwork base.scheme)
  (joinable : isJoinable s = true)
include parsed network joinable

/-- Behind a query or fragment nothing comes into the path. -/
theorem path_of_ended (ended : ¬(base.query = none ∧ base.fragment = none)) (ds : List Char) :
    ∃ query fragment, parse (s ++ "/" ++ String.ofList ds) =
      .ok { base with query, fragment } ∧ ¬(query = none ∧ fragment = none) := by
  obtain ⟨rest, cut⟩ := cut_of_parse parsed
  have written := parse_of_joinable parsed network joinable cut ds
  rw [parse_of_cut network cut] at parsed
  have below := readsBelow network.special parsed
  rw [below.query, below.fragment, cutSuffix_bare_iff] at ended
  have same := (takeWhile_append_cases isFront rest
    (dropped s.toList ++ '/' :: kept ds)).resolve_right fun further => ended further.1
  refine ⟨(cutSuffix base.scheme (rest ++ (dropped s.toList ++ '/' :: kept ds))).2.query,
    (cutSuffix base.scheme (rest ++ (dropped s.toList ++ '/' :: kept ds))).2.fragment, ?_, ?_⟩
  · rw [written, cutSuffix_fst, same, ← cutSuffix_fst base.scheme, ← below.path]
  · rw [cutSuffix_bare_iff, same]
    intro whole
    have shorter := congrArg List.length whole
    have front := (List.takeWhile_prefix isFront (l := rest)).length_le
    rw [List.length_append, List.length_append, List.length_cons] at shorter
    omega

/-- Behind a path plain segments come to stand below it. -/
theorem path_of_bare (bare : base.query = none ∧ base.fragment = none) :
    ∃ above : List (List Char),
      (∀ ds, (∀ c ∈ ds, IsPlainChar c) → parse (s ++ "/" ++ String.ofList ds) =
        .ok { base with path := .rooted (above ++ cutSegments true ds) }) ∧
      (dropped s.toList = [] → base.path = .rooted above ∨ base.path = .rooted (above ++ [[]])) ∧
      (dropped s.toList ≠ [] → (trimEndOf (· == '/') base.pathText).length <
        (segmentsText above).length) := by
  have named := host_of_parse parsed network
  obtain ⟨rest, cut⟩ := cut_of_parse parsed
  have written := parse_of_joinable parsed network joinable cut
  rw [parse_of_cut network cut] at parsed
  have below := readsBelow network.special parsed
  have whole := (cutSuffix_bare_iff base.scheme rest).mp
    ⟨below.query ▸ bare.1, below.fragment ▸ bare.2⟩
  have front := List.takeWhile_eq_self_iff.mp whole
  have edges : ∀ c ∈ dropped s.toList, isEdge c = true := edges_dropped
  rw [cutSuffix_of_bare whole] at below
  have served := isEmpty_of_cutBefore below.server
  obtain ⟨above, path, further, inner⟩ := @readSegments_below _ network
    (cutBefore (isSlash true) (rest.dropWhile (isSlash true) ++ dropped s.toList)).2
    fun _ => isSlash_of_cutBefore
  refine ⟨above, fun ds plain => ?_, fun nothing => ?_, fun filled => ?_⟩
  -- nothing of what follows ends the path, so it is read on where the base stops
  · have inside : (rest ++ (dropped s.toList ++ '/' :: ds)).takeWhile isFront =
        rest ++ (dropped s.toList ++ '/' :: ds) := by
      rw [List.takeWhile_append_of_pos front, List.takeWhile_append_of_pos fun c among =>
          of_edge (p := fun c => isFront c = true) (by decide) (edges c among),
        List.takeWhile_cons_of_pos (by decide),
        List.takeWhile_eq_self_iff.mpr fun c among => (plain c among).front]
    have plainly : ∀ segment ∈ cutSegments true ds, ∀ c ∈ segment, IsPlainChar c :=
      fun segment piece c among => plain c ((mem_splitOnP piece).1.subset among)
    have read := written ds
    rw [kept_of_plain plain, cutSuffix_of_bare inside] at read
    simp only [List.dropWhile_append, served, Bool.false_eq_true, if_false] at read
    rw [← List.append_assoc, cutBefore_append, further,
      pushSegments_plain network _ plainly] at read
    rw [read, bare.1, bare.2]
  · rw [nothing, List.append_nil] at path
    rw [below.path]
    exact path
  -- the blanks that were dropped belong to the last segment now
  · have slashed : endsInServer rest = false := by
      rw [isJoinable, cut] at joinable
      simpa [filled] using joinable
    obtain ⟨c, tail, behind⟩ := List.exists_cons_of_ne_nil (cutBefore_of_slashed whole slashed)
    have slash : isSlash true c = true := isSlash_of_cutBefore (by rw [behind, List.head?_cons])
    have longer : (cutBefore (isSlash true)
        (rest.dropWhile (isSlash true) ++ dropped s.toList)).2 =
          c :: (tail ++ dropped s.toList) := by
      simp only [cutBefore] at behind ⊢
      rw [List.dropWhile_append, behind]
      rfl
    have before : base.path = .rooted (pushSegments base.scheme [] (cutSegments true tail)) := by
      rw [below.path, behind, readSegments_network network, passSlash, if_pos slash]
    rw [inner _ _ longer, pathText_of_rooted named before]
    exact length_pushInner_lt network filled edges (withoutBreaks_dropped _) tail

end

/-! ### The path of the configured text -/

/-- What the text of an address has to be for plain paths to come to stand below its path. -/
structure TakesPaths (s : String) (base : Url) : Prop where
  noQuery : base.query = none
  noFragment : base.fragment = none
  /-- Nothing is dropped from its end. -/
  visible : dropped s.toList = []
  /-- With one slash for those at its end, its path ends in no more than one. -/
  oneSlash : ∀ below, parse (withoutSlashes s ++ "/") = .ok below → ¬ ['/', '/'] <:+ below.pathText

/-- Where plain paths come to stand that are written behind the text of an address. -/
inductive Landing (s : String) (base : Url) : Prop
  /-- In the query or fragment. -/
  | outside (ended : ¬(base.query = none ∧ base.fragment = none))
      (lands : ∀ ds url, parse (withoutSlashes s ++ "/" ++ String.ofList ds) = .ok url →
        url.pathText = base.pathText)
  /-- Below its path, of which the slashes at the end may be left. -/
  | below (above : List Char) (bare : base.query = none ∧ base.fragment = none)
      (visible : dropped s.toList = [])
      (same : trimEndOf (· == '/') base.pathText = trimEndOf (· == '/') above)
      (lands : ∀ ds, (∀ c ∈ ds, IsPlainChar c) → ∀ url,
        parse (withoutSlashes s ++ "/" ++ String.ofList ds) = .ok url →
          url.pathText = above ++ '/' :: ds)
  /-- Below another path, in which the blanks at the end are counted. -/
  | deeper (above : List Char) (filled : dropped s.toList ≠ [])
      (less : (trimEndOf (· == '/') base.pathText).length < above.length)
      (lands : ∀ ds, (∀ c ∈ ds, IsPlainChar c) → ∀ url,
        parse (withoutSlashes s ++ "/" ++ String.ofList ds) = .ok url →
          url.pathText = above ++ '/' :: ds)

theorem trimEndOf_slashes (cs : List Char) {slashes : List Char} (each : ∀ c ∈ slashes, c = '/') :
    trimEndOf (· == '/') (cs ++ slashes) = trimEndOf (· == '/') cs := by
  induction slashes using List.reverseRecOn with
  | nil => rw [List.append_nil]
  | append_singleton front last ih =>
    obtain rfl : last = '/' := each last (by simp)
    rw [← List.append_assoc, trimEndOf_concat (by decide),
      ih fun c among => each c (List.mem_append_left _ among)]

/-- A text that has no slash at its end has one slash when that is written behind it. -/
theorem trimEndOf_eq_self_iff (cs : List Char) :
    trimEndOf (· == '/') cs = cs ↔ ¬ ['/', '/'] <:+ cs ++ ['/'] := by
  have trimmed : trimEndOf (· == '/') cs = cs.rdropWhile (· == '/') := rfl
  have two : ['/', '/'] <:+ cs ++ ['/'] ↔ ['/'] <:+ cs :=
    @List.suffix_append_self_iff _ ['/'] cs ['/']
  rw [trimmed, List.rdropWhile_eq_self_iff, two, List.singleton_suffix_iff_getLast?_eq_some]
  constructor
  · intro other ends
    obtain ⟨front, rfl⟩ := List.getLast?_eq_some_iff.mp ends
    exact other (by simp) (by simp)
  · intro other filled slash
    refine other ?_
    rw [List.getLast?_eq_some_getLast filled, eq_of_beq slash]

/-- What stands behind a text without the slashes at its end are these, if that is all of it. -/
theorem dropWhile_of_trimmed {cs ds : List Char}
    (written : cs = trimEndOf (· == '/') cs ++ '/' :: ds) : ds.dropWhile (· == '/') = [] := by
  have whole : trimEndOf (· == '/') cs ++ cs.rtakeWhile (· == '/') = cs :=
    List.rdropWhile_append_rtakeWhile
  have behind : cs.rtakeWhile (· == '/') = '/' :: ds :=
    List.append_cancel_left (whole.trans written)
  refine List.dropWhile_eq_nil_iff.mpr fun c among => ?_
  exact List.mem_rtakeWhile_imp (p := (· == '/')) (behind ▸ List.mem_cons_of_mem _ among)

section

variable {s : String} {base bound : Url} (parsed : parse s = .ok base)
  (taken : parse (withoutSlashes s) = .ok bound) (network : IsNetwork bound.scheme)
  (joinable : isJoinable (withoutSlashes s) = true)
include parsed taken network joinable

private theorem landing_of_ended (ended : ¬(bound.query = none ∧ bound.fragment = none)) :
    Landing s base := by
  have written := path_of_ended taken network joinable ended
  obtain ⟨same, outside⟩ : base.pathText = bound.pathText ∧
      ¬(base.query = none ∧ base.fragment = none) := by
    rcases withoutSlashes_cases s with same | ⟨slashes, _, same⟩
    · rw [← same] at taken
      obtain rfl : base = bound := Except.ok.inj (parsed.symm.trans taken)
      exact ⟨rfl, ended⟩
    · obtain ⟨query, fragment, read, outside⟩ := written slashes
      rw [← same, parsed] at read
      cases read
      exact ⟨rfl, outside⟩
  refine .outside outside fun ds url read => ?_
  obtain ⟨query, fragment, found, _⟩ := written ds
  rw [found] at read
  cases read
  exact same.symm

private theorem landing_of_bare (bare : bound.query = none ∧ bound.fragment = none) :
    Landing s base := by
  have named := host_of_parse taken network
  obtain ⟨above, written, visible, filled⟩ := path_of_bare taken network joinable bare
  have lands : ∀ ds, (∀ c ∈ ds, IsPlainChar c) → ∀ url,
      parse (withoutSlashes s ++ "/" ++ String.ofList ds) = .ok url →
        url.pathText = segmentsText above ++ '/' :: ds := by
    intro ds plain url read
    rw [written ds plain] at read
    cases read
    refine pathText_of_below ?_ plain rfl
    exact named
  rcases withoutSlashes_cases s with same | ⟨slashes, each, same⟩
  · rw [← same] at taken visible filled
    obtain rfl : base = bound := Except.ok.inj (parsed.symm.trans taken)
    by_cases nothing : dropped s.toList = []
    · refine .below (segmentsText above) bare nothing ?_ lands
      rcases visible nothing with path | path
      · rw [pathText_of_rooted named path]
      · rw [pathText_of_rooted named path, segmentsText_append]
        exact trimEndOf_concat rfl _
    · exact .deeper (segmentsText above) nothing (filled nothing) lands
  -- the slashes that are left out are a plain path themselves
  · have plain : ∀ c ∈ slashes, IsPlainChar c := by
      intro c among
      rw [each c among]
      decide
    have path := lands slashes plain base (same ▸ parsed)
    have read := written slashes plain
    rw [← same, parsed] at read
    cases read
    refine .below (segmentsText above) bare ?_ ?_ lands
    · rw [same]
      exact dropped_of_slashes _ each
    · rw [path]
      exact trimEndOf_slashes _ (List.forall_mem_cons.mpr ⟨rfl, each⟩)

theorem landing_of_parse : Landing s base := by
  by_cases bare : bound.query = none ∧ bound.fragment = none
  · exact landing_of_bare parsed taken network joinable bare
  · exact landing_of_ended parsed taken network joinable bare

end

/-- Whether the path of an address is that of another without the slashes at its end, then a slash,
then a path without those in front. -/
def StandsBelow (url base : Url) (path : String) : Prop :=
  url.pathText =
    trimEndOf (· == '/') base.pathText ++ '/' :: path.toList.dropWhile (· == '/')

section

variable {s path : String} {base url : Url} (landing : Landing s base)
  (plain : ∀ c ∈ path.toList, isPathChar c = true)
  (read : parse (withoutSlashes s ++ "/" ++ String.ofList (path.toList.dropWhile (· == '/'))) =
    .ok url)
include landing plain read

theorem standsBelow_of_takesPaths (takes : TakesPaths s base)
    (joinable : ∃ root, parse (withoutSlashes s ++ "/") = .ok root) :
    url.StandsBelow base path := by
  have each : ∀ c ∈ path.toList.dropWhile (· == '/'), IsPlainChar c := fun c among =>
    isPlainChar_of_isPathChar (plain c ((List.dropWhile_sublist _).subset among))
  cases landing with
  | outside ended _ => exact absurd ⟨takes.noQuery, takes.noFragment⟩ ended
  | below above _ _ same lands =>
    obtain ⟨root, rooted⟩ := joinable
    have ends := takes.oneSlash root rooted
    rw [lands [] (by simp) root (by simpa using rooted), ← trimEndOf_eq_self_iff] at ends
    rw [StandsBelow, lands _ each url read, same, ends]
  | deeper _ filled _ _ => exact absurd takes.visible filled

theorem takesPaths_of_standsBelow (filled : path.toList.dropWhile (· == '/') ≠ [])
    (stands : url.StandsBelow base path) : TakesPaths s base := by
  have each : ∀ c ∈ path.toList.dropWhile (· == '/'), IsPlainChar c := fun c among =>
    isPlainChar_of_isPathChar (plain c ((List.dropWhile_sublist _).subset among))
  cases landing with
  | outside _ lands =>
    -- only slashes of the path are left out, but something else was asked for
    rw [StandsBelow, lands _ url read] at stands
    have nothing := dropWhile_of_trimmed stands
    rw [List.dropWhile_idempotent] at nothing
    exact absurd nothing filled
  | below above bare visible same lands =>
    refine ⟨bare.1, bare.2, visible, fun root rooted => ?_⟩
    rw [lands [] (by simp) root (by simpa using rooted), ← trimEndOf_eq_self_iff, ← same]
    rw [StandsBelow, lands _ each url read] at stands
    exact (List.append_cancel_right stands).symm
  | deeper above _ less lands =>
    rw [StandsBelow, lands _ each url read] at stands
    rw [List.append_cancel_right stands] at less
    exact absurd less (lt_irrefl _)

end

end Url

open Url (isPathChar)

/-- Every address that a client makes of plain paths has the scheme, the host and the port that were
configured. It stands below the configured path if the configured text takes paths, and only then,
whenever there is anything in the path but slashes. -/
theorem Config.standsBelow_iff {config : Config} {client : Client}
    (valid : config.validate = .ok ()) (accepted : Client.ofConfig config = .ok client) :
    ∃ base, Url.parse config.baseUrl = .ok base ∧
      ∀ path : String, (∀ c ∈ path.toList, isPathChar c = true) →
        ∀ url, client.urlFor path = .ok url →
          (url.scheme = base.scheme ∧ url.host = base.host ∧ url.port = base.port) ∧
          (Url.TakesPaths config.baseUrl base → url.StandsBelow base path) ∧
          (path.toList.dropWhile (· == '/') ≠ [] → url.StandsBelow base path →
            Url.TakesPaths config.baseUrl base) := by
  obtain ⟨base, configured, http⟩ := config.validate_iff.mp valid
  have network := Url.isNetwork_of_isHttp http
  obtain ⟨_, _, _, _, accepted', parsed⟩ := Client.ofConfig_of_valid configured http
  cases accepted.symm.trans accepted'
  rw [(Client.baseUrl_of_ofConfig accepted).1] at parsed
  refine ⟨base, configured, fun path plain url address => ?_⟩
  have read := Client.parse_of_urlFor address
  rw [(Client.baseUrl_of_ofConfig accepted).1] at read
  have joinable := Url.joinable_of_parse parsed network read
  have landing := Url.landing_of_parse configured parsed network joinable
  obtain ⟨rest, cut⟩ := Url.cut_of_parse parsed
  have root := Url.parse_of_joinable parsed network joinable cut []
  rw [String.ofList_nil, String.append_empty] at root
  refine ⟨?_, fun takes => Url.standsBelow_of_takesPaths landing plain read takes ⟨_, root⟩,
    Url.takesPaths_of_standsBelow landing plain read⟩
  obtain ⟨_, _, _, rfl⟩ := Url.parse_behind parsed network read
  exact ⟨rfl, rfl, rfl⟩

/-- A server address with a path. -/
def Url.below (segments : List (List Char)) : Url :=
  ⟨"http".toList, [], [], some (.name "api.test".toList), none, .rooted segments, none, none⟩

/-- The slashes at the end of the configured text do no harm, nor those in front of a path. -/
theorem Config.standsBelow_iff_slashed :
    let config := { Config.default with baseUrl := "http://api.test/api//" }
    config.validate = .ok () ∧ ∃ client, Client.ofConfig config = .ok client ∧
      ∃ url, client.urlFor "/docentes/a-7" = .ok url ∧
        url.pathText = "/api/docentes/a-7".toList := by
  intro config
  have valid : config.validate = .ok () := by decide +kernel
  have accepted : Client.ofConfig config = .ok ⟨"http://api.test/api", 10000, "/login", 0⟩ := by
    decide +kernel
  have home : Url.parse config.baseUrl = .ok (.below ["api".toList, [], []]) := by decide +kernel
  have address : Client.urlFor ⟨"http://api.test/api", 10000, "/login", 0⟩ "/docentes/a-7" =
      .ok (.below ["api".toList, "docentes".toList, "a-7".toList]) := by decide +kernel
  have root : Url.parse (Url.withoutSlashes config.baseUrl ++ "/") =
      .ok (.below ["api".toList, []]) := by decide +kernel
  obtain ⟨base, configured, law⟩ := Config.standsBelow_iff valid accepted
  cases configured.symm.trans home
  refine ⟨valid, _, accepted, _, address, ?_⟩
  refine (law "/docentes/a-7" (List.all_eq_true.mp (by decide)) _ address).2.1
    ⟨rfl, rfl, by decide +kernel, ?_⟩
  intro below read
  cases read.symm.trans root
  decide

/-- A blank behind the configured path gets into the path of the request. -/
theorem Config.blank_not_standsBelow :
    ¬ ∀ (config : Config) (client : Client), config.validate = .ok () →
      Client.ofConfig config = .ok client → ∃ base, Url.parse config.baseUrl = .ok base ∧
        ∀ path : String, (∀ c ∈ path.toList, isPathChar c = true) →
          ∀ url, client.urlFor path = .ok url → url.StandsBelow base path := by
  intro always
  have accepted : Client.ofConfig { Config.default with baseUrl := "http://api.test/api " } =
      .ok ⟨"http://api.test/api ", 10000, "/login", 0⟩ := by decide +kernel
  have home : Url.parse "http://api.test/api " = .ok (.below ["api".toList]) := by decide +kernel
  have address : Client.urlFor ⟨"http://api.test/api ", 10000, "/login", 0⟩ "docentes" =
      .ok (.below ["api%20".toList, "docentes".toList]) := by decide +kernel
  obtain ⟨base, configured, law⟩ := always _ _ (by decide +kernel) accepted
  cases configured.symm.trans home
  have stands := law "docentes" (List.all_eq_true.mp (by decide)) _ address
  rw [Url.StandsBelow] at stands
  revert stands
  decide

end TeacherRegistry
