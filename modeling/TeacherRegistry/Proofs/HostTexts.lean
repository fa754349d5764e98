import TeacherRegistry.Proofs.Addresses
import TeacherRegistry.Proofs.PercentCoding

/-!
# What no host holds

The text of a host is decoded, mapped and composed before it is looked at. Blanks and controls come
through all of this: the mapping leaves them alone, and no composition has one of them for a part.
So a text that holds one is no host, and neither is a server with one at its end.
-/

namespace TeacherRegistry.Url

/-- What holds of the blanks and controls one by one holds of any of them. -/
theorem of_edge {p : Char → Prop} (each : ∀ n ≤ 0x20, p (Char.ofNat n)) {c : Char}
    (edge : isEdge c = true) : p c := by
  have low : c.toNat ≤ 0x20 := of_decide_eq_true edge
  rw [← Char.ofNat_toNat c]
  exact each c.toNat low

namespace DomainName

/-! ### The table of compositions -/

private theorem compositions_visible :
    (compositions.all fun row => row.all fun n => decide (0x20 < n)) = true := by
  -- the table is too long to be checked in one piece
  unfold compositions
  repeat refine Text.all_numberTable_cons rfl (by decide +kernel) ?_
  exact Text.all_numberTable_nil _

private theorem visible_of_composition {row : List Nat} (among : row ∈ compositions) {n : Nat}
    (part : n ∈ row) : ¬n ≤ 0x20 := by
  have each := List.all_eq_true.mp (List.all_eq_true.mp compositions_visible row among) n part
  exact Nat.not_le_of_lt (of_decide_eq_true each)

/-! ### Composition -/

theorem parts?_of_edge {n : Nat} (edge : n ≤ 0x20) : parts? n = none := by
  have below : ¬(hangulBase ≤ n ∧ n < hangulBase + hangulCount) := by
    unfold hangulBase
    omega
  -- neither a syllable nor in the table
  rw [parts?, if_neg below, List.findSome?_eq_none_iff]
  intro row among
  split
  next first second composed =>
    refine if_neg fun same => ?_
    exact visible_of_composition among (by simp) (same ▸ edge)
  · rfl

theorem compose?_of_edge {first second : Nat} (edge : first ≤ 0x20 ∨ second ≤ 0x20) :
    compose? first second = none := by
  unfold compose?
  split
  next leading =>
    -- a leading consonant is visible, so the blank is where the vowel should be
    refine if_neg ?_
    unfold leadingBase vowelBase at *
    omega
  · split
    next syllable =>
      unfold hangulBase trailingBase at syllable
      omega
    · rw [List.findSome?_eq_none_iff]
      intro row among
      split
      next a b composed =>
        refine if_neg fun ⟨same, same'⟩ => ?_
        rcases edge with edge | edge
        · exact visible_of_composition among (by simp) (same ▸ edge)
        · exact visible_of_composition among (by simp) (same' ▸ edge)
      · rfl

theorem decompose_of_edge {n : Nat} (edge : n ≤ 0x20) (depth : Nat) : decompose depth n = [n] := by
  cases depth with
  | zero => rfl
  | succ depth => rw [decompose, parts?_of_edge edge]

theorem mem_insertMark {c mark : Char} {cs : List Char} :
    c ∈ insertMark mark cs ↔ c = mark ∨ c ∈ cs := by
  induction cs with
  | nil => simp [insertMark]
  | cons first rest ih =>
    unfold insertMark
    split
    · rw [List.mem_cons, ih, List.mem_cons]
      exact or_left_comm
    · rw [List.mem_cons]

theorem mem_orderMarks {c : Char} {cs : List Char} (among : c ∈ cs) : c ∈ orderMarks cs := by
  -- what has been put in order so far only grows
  have ordered : ∀ before : List Char, c ∈ before ∨ c ∈ cs → c ∈ cs.foldl (fun reversed c =>
      if combiningClass c = 0 then c :: reversed else insertMark c reversed) before := by
    clear among
    induction cs with
    | nil =>
      intro before held
      exact held.resolve_right List.not_mem_nil
    | cons first rest ih =>
      intro before held
      rw [List.foldl_cons]
      apply ih
      have placed : c ∈ (if combiningClass first = 0 then first :: before
          else insertMark first before) ↔ c = first ∨ c ∈ before := by
        split
        · exact List.mem_cons
        · exact mem_insertMark
      rw [placed]
      rw [List.mem_cons] at held
      exact (or_assoc.mpr held).imp_left Or.symm
  rw [orderMarks, List.mem_reverse]
  exact ordered [] (Or.inr among)

/-- A blank is never part of a composition, so it is still there after the next character. -/
theorem mem_flush_push {c : Char} (edge : isEdge c = true) (state : Composing) {next : Char}
    (held : c ∈ state.flush ∨ c = next) : c ∈ (state.push next).flush := by
  have low : c.toNat ≤ 0x20 := of_decide_eq_true edge
  unfold Composing.push
  simp only
  split
  next n composed =>
    -- the letter and the next character have become one, so neither of them is the blank
    have pair : ∃ letter, state.letter = some letter ∧
        compose? letter.toNat next.toNat = some n :=
      Option.bind_eq_some_iff.mp (Option.ite_none_right_eq_some.mp composed).2
    obtain ⟨letter, last, joined⟩ := pair
    have other : ∀ d : Char, compose? d.toNat next.toNat = some n → c ≠ d := by
      rintro d joined rfl
      rw [compose?_of_edge (Or.inl low)] at joined
      cases joined
    rcases held with early | rfl
    · simp only [Composing.flush, last, Option.toList_some, List.mem_append, List.mem_cons,
        List.not_mem_nil, or_false] at early ⊢
      rcases early with mark | same | before
      · exact Or.inl mark
      · exact absurd same (other letter joined)
      · exact Or.inr (Or.inr before)
    · rw [compose?_of_edge (Or.inr low)] at joined
      cases joined
  · split
    · simp only [Composing.flush, List.nil_append, Option.toList_some, List.singleton_append,
        List.mem_cons]
      exact held.symm
    · simp only [Composing.flush, List.cons_append, List.mem_cons]
      exact held.symm

theorem mem_normalize {c : Char} {cs : List Char} (edge : isEdge c = true) (among : c ∈ cs) :
    c ∈ normalize cs := by
  -- the blank is among what is written out, at any time after it was met
  have pushed : ∀ (ds : List Char) (state : Composing), c ∈ state.flush ∨ c ∈ ds →
      c ∈ (ds.foldl Composing.push state).flush := by
    intro ds
    induction ds with
    | nil =>
      intro state held
      exact held.resolve_right List.not_mem_nil
    | cons next rest ih =>
      intro state held
      rw [List.foldl_cons]
      apply ih
      rw [List.mem_cons, ← or_assoc] at held
      exact held.imp_left (mem_flush_push edge state)
  have apart : c ∈ cs.flatMap fun c => (decompose decompositionDepth c.toNat).map Char.ofNat := by
    refine List.mem_flatMap.mpr ⟨c, among, ?_⟩
    rw [decompose_of_edge (of_decide_eq_true edge), List.map_singleton, Char.ofNat_toNat]
    exact List.mem_singleton_self c
  rw [normalize, List.mem_reverse]
  exact pushed _ _ (Or.inr (mem_orderMarks apart))

theorem mem_mapChars? {c : Char} {cs mapped : List Char} (edge : isEdge c = true)
    (among : c ∈ cs) (maps : mapChars? cs = some mapped) : c ∈ mapped := by
  have low : c.toNat ≤ 0x20 := of_decide_eq_true edge
  have itself : mapChar? c = some [c] := by
    have same : c.toLower = c := of_edge (p := fun c => c.toLower = c) (by decide) edge
    have ascii : c.toNat < 0x80 := by omega
    simp only [mapChar?, ascii, if_true, same]
  induction cs generalizing mapped with
  | nil => cases among
  | cons first rest ih =>
    unfold mapChars? at maps
    split at maps
    next image others one more =>
      cases maps
      rw [List.mem_append]
      rcases List.mem_cons.mp among with rfl | later
      · rw [itself] at one
        cases one
        exact Or.inl (List.mem_singleton_self c)
      · exact Or.inr (ih later more)
    · cases maps

end DomainName

/-! ### Hosts -/

theorem toNat_of_mem_utf8EncodeChar {c : Char} {b : UInt8} (among : b ∈ String.utf8EncodeChar c)
    (ascii : b.toNat < 0x80) : c.toNat = b.toNat := by
  have bits : c.val.toNat = c.toNat := rfl
  unfold String.utf8EncodeChar at among
  simp only [bits] at among
  split at among
  next single =>
    rw [List.mem_singleton] at among
    rw [among, UInt8.toNat_ofNat']
    omega
  next several =>
    -- all bytes of a longer encoding are beyond ASCII
    have beyond : 0x80 ≤ b.toNat := by
      repeat' split at among
      all_goals
        simp only [List.mem_cons, List.not_mem_nil, or_false] at among
        rcases among with rfl | rfl | rfl | rfl <;> rw [UInt8.toNat_ofNat'] <;> omega
    omega

theorem mem_of_mem_utf8 {c : Char} {cs : List Char} (ascii : c.toNat < 0x80)
    (among : UInt8.ofNat c.toNat ∈ utf8 cs) : c ∈ cs := by
  obtain ⟨d, member, bytes⟩ := List.mem_flatMap.mp among
  have small : (UInt8.ofNat c.toNat).toNat = c.toNat := by
    rw [UInt8.toNat_ofNat']
    omega
  have same := toNat_of_mem_utf8EncodeChar bytes (by omega)
  rw [small] at same
  rw [← Char.toNat_inj.mp same]
  exact member

theorem mem_percentDecode {c : Char} {cs : List Char} (edge : isEdge c = true) (among : c ∈ cs) :
    UInt8.ofNat c.toNat ∈ percentDecode cs := by
  fun_induction percentDecode cs with
  | case1 => cases among
  | case2 high low rest h l isLow isHigh ih =>
    -- neither the percent sign nor a digit is a blank
    have visible : hexValue? c = none := of_edge (p := fun c => hexValue? c = none) (by decide) edge
    simp only [List.mem_cons] at among ⊢
    rcases among with rfl | rfl | rfl | later
    · cases edge
    · rw [isHigh] at visible
      cases visible
    · rw [isLow] at visible
      cases visible
    · exact Or.inr (ih later)
  | case3 high low rest undecoded ih =>
    rcases List.mem_cons.mp among with rfl | later
    -- a percent sign that stands for itself
    · cases edge
    · exact List.mem_cons_of_mem _ (ih later)
  | case4 d rest unescaped ih =>
    rw [List.mem_append]
    rcases List.mem_cons.mp among with rfl | later
    · have single : String.utf8EncodeChar c = [UInt8.ofNat c.toNat] :=
        of_edge (p := fun c => String.utf8EncodeChar c = [UInt8.ofNat c.toNat]) (by decide) edge
      rw [single]
      exact Or.inl (List.mem_singleton_self _)
    · exact Or.inr (ih later)

/-- A text with a blank or a control in it is no domain name. -/
theorem domainName?_of_edge {c : Char} {cs : List Char} (edge : isEdge c = true) (among : c ∈ cs) :
    domainName? (percentDecode cs) = none := by
  have low : c.toNat ≤ 0x20 := of_decide_eq_true edge
  have bytes := mem_percentDecode edge among
  unfold domainName?
  cases spelled : String.fromUTF8? ⟨(percentDecode cs).toArray⟩ with
  | none => rfl
  | some text =>
    rw [fromUTF8?_eq_some_iff.mp spelled] at bytes
    have written := mem_of_mem_utf8 (by omega) bytes
    simp only [bind, Option.bind_some]
    cases maps : DomainName.mapChars? text.toList with
    | none => rfl
    | some mapped =>
      have kept := DomainName.mem_mapChars? edge written maps
      -- composed or not, the name still holds the blank, and that is forbidden
      have named : c ∈ if isAscii mapped then mapped else DomainName.normalize mapped := by
        split
        · exact kept
        · exact DomainName.mem_normalize edge kept
      have forbidden : isForbiddenDomainChar c = true := by
        simp only [isForbiddenDomainChar, decide_eq_true low, Bool.true_or]
      simp only [Option.bind_some]
      rw [if_pos (List.any_eq_true.mpr ⟨c, named, forbidden⟩)]

theorem visible_of_specialHost {text : List Char} {host : Host}
    (read : specialHost text = .ok host) : EndsVisibly text := by
  intro c last
  unfold specialHost at read
  split at read
  next bracket =>
    unfold bracketedHost at read
    split at read
    next closed =>
      -- the end is the bracket that closes the address
      rw [closed] at last
      cases last
      rfl
    · cases read
  · rw [← Bool.not_eq_true]
    intro edge
    rw [domainName?_of_edge edge (List.mem_of_getLast? last)] at read
    cases read

end TeacherRegistry.Url
