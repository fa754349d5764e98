import TeacherRegistry.Proofs.Attempts
import TeacherRegistry.Proofs.CaseForms
import TeacherRegistry.Proofs.EditIntegrity

/-!
# Only sound records are sent

Drafts come out of the form, and out of lists of which nothing is known. So it is not the form that
keeps them sound: a draft is checked at the moment when it is to be sent. What the check lets through
is sent as it is, and whoever reads the body has the same record again.
-/

namespace TeacherRegistry

open Json (Value)

namespace Teacher

/-- What is asked of a record that is sent. -/
structure IsSound (t : Teacher) : Prop where
  numbered : 1 ≤ t.idNumber.toList.length ∧ t.idNumber.toList.length ≤ 10
  digits : ∀ c ∈ t.idNumber.toList, '0' ≤ c ∧ c ≤ '9'
  name : Text.isBlank t.name = false
  email : Text.isBlank t.email = false
  address : '@' ∈ t.email.toList
  specialty : Text.isBlank t.specialty = false

private theorem checked_iff {p : Prop} [Decidable p] {fault : Fault} {rest : Option Fault} :
    (if p then some fault else rest) = none ↔ ¬p ∧ rest = none := by
  by_cases failing : p <;> simp [failing]

theorem isDigit_iff (c : Char) : c.isDigit = true ↔ '0' ≤ c ∧ c ≤ '9' := by
  simp only [Char.isDigit, Bool.and_eq_true, decide_eq_true_eq]
  rfl

private theorem isIdNumber_iff (s : String) :
    isIdNumber s = true ↔ s.toList.length ≤ 10 ∧ ∀ c ∈ s.toList, '0' ≤ c ∧ c ≤ '9' := by
  simp only [isIdNumber, Bool.and_eq_true, decide_eq_true_eq, List.all_eq_true, isDigit_iff]
  rfl

/-- All digits are of ASCII, so it makes no difference that bytes are counted. -/
theorem passesAsIdNumber_eq (s : String) : passesAsIdNumber s = isIdNumber s := by
  unfold passesAsIdNumber isIdNumber
  by_cases digits : s.toList.all Char.isDigit = true
  · have ascii : Text.IsAscii s := fun c among =>
      Nat.lt_of_le_of_lt (Char.isDigit_iff_toNat.mp (List.all_eq_true.mp digits c among)).2
        (by decide)
    rw [Text.utf8ByteSize_of_ascii ascii]
  · simp only [digits, Bool.and_false]

/-- The checks find nothing in a sound record, and only in a sound one. -/
theorem fault?_eq_none_iff (t : Teacher) : t.fault? = none ↔ t.IsSound := by
  have filled : t.idNumber = "" ↔ ¬1 ≤ t.idNumber.toList.length := by
    rw [← String.toList_eq_nil_iff, ← List.length_eq_zero_iff]
    omega
  -- no check finds anything; the checks come in another order than the parts of the rule
  simp only [fault?, checked_iff, filled, Bool.not_eq_true', Bool.not_eq_false, passesAsIdNumber_eq,
    isIdNumber_iff, List.contains_iff_mem, not_not, and_true, Bool.not_eq_true]
  constructor
  · rintro ⟨present, ⟨few, digits⟩, name, email, address, specialty⟩
    exact ⟨⟨present, few⟩, digits, name, email, address, specialty⟩
  · rintro ⟨⟨present, few⟩, digits, name, email, address, specialty⟩
    exact ⟨present, ⟨few, digits⟩, name, email, address, specialty⟩

end Teacher

namespace Controller

/-- A draft that may be sent: it is sound, and if it is under edit it has an identifier. -/
structure MaySend (c : Controller) : Prop where
  sound : c.draft.IsSound
  known : c.editing = true → c.draft.id ≠ none

variable (client : Client) {c : Controller} (w : World)

theorem plan_of_maySend (may : c.MaySend) : ∃ plan, c.plan = .ok plan := by
  have sound := (Teacher.fault?_eq_none_iff c.draft).mpr may.sound
  unfold plan
  split
  next fault found =>
    rw [sound] at found
    cases found
  · exact ⟨_, rfl⟩
  next editing unknown => exact absurd unknown (may.known editing)
  · exact ⟨_, rfl⟩

theorem maySend_of_plan {outcome : SaveOutcome} {method path : String}
    (planned : c.plan = .ok (outcome, method, path)) : c.MaySend := by
  constructor
  · rw [← Teacher.fault?_eq_none_iff]
    unfold plan at planned
    split at planned
    next => cases planned
    all_goals assumption
  · intro editing unknown
    rcases plan_cases planned with ⟨idle, _⟩ | ⟨id, _, known, _⟩
    · rw [idle] at editing
      cases editing
    · rw [unknown] at known
      cases known

theorem submit_of_fault {fault : Teacher.Fault} (planned : c.plan = .error fault) :
    submit client c w = ⟨.error (.invalid fault), c, notifyFailure w saveFailure fault.message⟩ := by
  simp only [submit, within, save, planned, notifyFailure, World.enter, World.leave, World.notify,
    World.record, World.append, List.dropLast_concat]

/-- Saving a draft makes the planned call and may read the list again. -/
theorem mem_savingCalls {client : Client} {w : World} {outcome : SaveOutcome} {method path : String}
    {call : Call} (planned : c.plan = .ok (outcome, method, path))
    (among : call ∈ savingCalls client c w) :
    call = .of client Value.ofBytes? method path (some c.draft.json) w ∨
      ∃ v, call = loadingCall client v := by
  simp only [savingCalls, planned] at among
  split at among
  next e v called =>
    rw [List.mem_singleton] at among
    rw [among, Call.of, called]
    exact Or.inl rfl
  next answer v called =>
    rw [List.mem_cons, List.mem_singleton] at among
    rcases among with rfl | rfl
    · rw [Call.of, called]
      exact Or.inl rfl
    · exact Or.inr ⟨_, rfl⟩

theorem inquiries_loadingCall (client : Client) (w : World) :
    ∀ hop ∈ (loadingCall client w).news.hops, hop.request.IsInquiry := by
  intro hop among
  rcases Call.repeats (by decide) hop among with ⟨method, body⟩ | inquiry
  -- what is repeated is an inquiry itself
  · exact ⟨method, body⟩
  · exact inquiry

/-- Every request of a submission is the planned one, or an inquiry. -/
theorem repeats_submit {outcome : SaveOutcome} {method path : String}
    (planned : c.plan = .ok (outcome, method, path)) :
    ∀ request ∈ ((submit client c w).world.since w).requests,
      request.Repeats method c.draft.json := by
  have other : method ≠ "HEAD" := by
    rcases plan_cases planned with ⟨_, rfl, _⟩ | ⟨_, _, _, rfl, _⟩ <;> decide
  intro request sent
  rw [Journal.requests_eq, (calling_submit client c w).hops_since] at sent
  obtain ⟨hop, among, rfl⟩ := List.mem_map.mp sent
  obtain ⟨call, made, among⟩ := List.mem_flatMap.mp among
  rcases mem_savingCalls planned made with rfl | ⟨v, rfl⟩
  · exact Call.repeats other hop among
  · exact Or.inr (inquiries_loadingCall client v hop among)

theorem valid_of_plan {outcome : SaveOutcome} {method path : String}
    (planned : c.plan = .ok (outcome, method, path)) (fault : Teacher.Fault) :
    (submit client c w).result ≠ .error (.invalid fault) := by
  have ends := saving_save client c (w.enter (.submit c.editing))
  rw [submit, within]
  generalize save client c (w.enter (.submit c.editing)) = effect at ends ⊢
  cases ends with
  | invalid refused =>
    rw [planned] at refused
    cases refused
  -- a call was made, so a failure is that of the call
  | refused | accepted =>
    intro refused
    cases refused

end Controller

/-- Whatever has happened at a desk before, only sound records leave it: a request of a submission
is a `POST` or `PUT` with the draft as it was, or an inquiry that carries nothing, and there is none
unless the draft may be sent. A draft that may not be sent is refused as invalid, with one notice of
failure and no other effect; one that may be sent is never refused as invalid. -/
theorem Desk.sends_sound_records (desk : Desk) (farEnd : Http.FarEnd) :
    let draft := desk.controller.draft
    let result := (desk.take ⟨farEnd, .submit⟩).1
    let after := (desk.take ⟨farEnd, .submit⟩).2
    let news := after.world.since desk.world
    (∀ request ∈ news.requests, desk.controller.MaySend ∧
      ((request.method = "POST" ∨ request.method = "PUT") ∧
        Teacher.ofString? request.body = some draft ∨ request.IsInquiry)) ∧
    (¬desk.controller.MaySend → ∃ fault : Teacher.Fault,
      let notice := Controller.saveFailure ++ ": " ++ fault.message
      result = .error (.controller (.invalid fault)) ∧ news.requests = [] ∧
        news.notices = [(.failure, notice)] ∧
        after = { desk with world := { desk.world with
          farEnd, journal := desk.world.journal ++ [.notice .failure notice] } }) ∧
    (desk.controller.MaySend → ∀ fault, result ≠ .error (.controller (.invalid fault))) := by
  intro draft result after news
  let met : World := { desk.world with farEnd }
  -- it is the plan that decides whether any call is made
  cases planned : desk.controller.plan with
  | error fault =>
    have refused := Controller.submit_of_fault desk.client met planned
    have outcome : desk.take ⟨farEnd, .submit⟩ = (.error (.controller (.invalid fault)),
        { desk with world := met.notify .failure (Controller.saveFailure ++ ": " ++
          fault.message) }) := by
      show desk.ofEffect (desk.controller.submit desk.client met) .saved = _
      rw [refused]
      rfl
    have said : news = [.notice .failure (Controller.saveFailure ++ ": " ++ fault.message)] :=
      World.since_eq (by show (desk.take _).2.world.journal = _; rw [outcome]; rfl)
    refine ⟨?_, ?_, ?_⟩
    · intro request sent
      rw [said] at sent
      cases sent
    · intro _
      exact ⟨fault, congrArg Prod.fst outcome, by rw [said]; rfl, by rw [said]; rfl,
        congrArg Prod.snd outcome⟩
    · intro may
      obtain ⟨plan, sendable⟩ := Controller.plan_of_maySend may
      rw [planned] at sendable
      cases sendable
  | ok plan =>
    obtain ⟨outcome, method, path⟩ := plan
    have may := Controller.maySend_of_plan planned
    refine ⟨?_, fun refused => absurd may refused, ?_⟩
    · intro request sent
      refine ⟨may, ?_⟩
      rcases Controller.repeats_submit desk.client met planned request sent with
        ⟨same, body⟩ | inquiry
      -- an attempt sends the planned request, and a redirection may repeat it
      · have saving : method = "POST" ∨ method = "PUT" := by
          rcases Controller.plan_cases planned with ⟨_, post, _⟩ | ⟨_, _, _, put, _⟩
          · exact Or.inl post
          · exact Or.inr put
        rw [same, body]
        exact Or.inl ⟨saving, draft.reread⟩
      · exact Or.inr inquiry
    · intro _ fault failed
      exact Controller.valid_of_plan desk.client met planned fault (Desk.error_of_ofEffect failed)

end TeacherRegistry
