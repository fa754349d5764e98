import TeacherRegistry.Proofs.FormSteps
import TeacherRegistry.Proofs.LongerHistories

/-!
# Looking changes nothing

Some steps only look: at the list under a search term, at the store, or at the token. However many of
them there are in a run, the other steps come to what they would come to without them, and the run
ends in the same state. What a step comes to is therefore told from the desk without its search term,
its history and the far end that it has met last, and looking changes nothing else.
-/

namespace TeacherRegistry

namespace Desk

/-! ### What the other steps go by -/

/-- A desk without its search term, its history and its far end. -/
def core (desk : Desk) : Desk :=
  ⟨desk.client, desk.controller.setFilter "",
    { desk.world with journal := [], farEnd := .unreachable }⟩

/-- A desk at which a step begins is its core again with the term and the history. -/
theorem meets_eq (desk : Desk) (farEnd : Http.FarEnd) :
    desk.meets farEnd =
      (desk.core.meets farEnd).reframed desk.controller.filter desk.world.journal := by
  simp [meets, core, reframed, World.behind, Controller.setFilter]

theorem core_reframed (desk : Desk) (term : String) (earlier : Journal) :
    (desk.reframed term earlier).core = desk.core := rfl

/-- A step that does more than look is told from the core of the desk: what it comes to, what goes
down in the history, and the core that it leaves behind. -/
theorem take_of_acts (desk : Desk) {step : Step} (acts : step.action.onlyLooks = false) :
    let done := (desk.core.meets step.farEnd).act step.action
    (desk.take step).1 = done.1 ∧
      (desk.take step).2.world.journal = desk.world.journal ++ done.2.world.journal ∧
      (desk.take step).2.core = done.2.core := by
  intro done
  have same : desk.take step =
      (done.1, done.2.reframed desk.controller.filter desk.world.journal) := by
    rw [← act_reframed _ _ _ acts, ← meets_eq]
    rfl
  rw [same]
  exact ⟨rfl, World.journal_behind _ _, core_reframed _ _ _⟩

/-- A step that only looks leaves the core as it is, and at most reports that the store cannot be
read. -/
theorem take_of_looks (desk : Desk) {step : Step} (looks : step.action.onlyLooks = true) :
    (desk.take step).2.core = desk.core ∧ desk.world.Silent (desk.take step).2.world := by
  obtain ⟨farEnd, action⟩ := step
  cases action with
  | token =>
    let met : World := { desk.world with farEnd }
    obtain ⟨said, _, looked⟩ := met.remarks_token
    have after : (desk.take ⟨farEnd, .token⟩).2 = { desk with world := met.append said } := by
      rw [← looked]
      rfl
    refine ⟨by rw [after]; rfl, ?_⟩
    exact met.token_aside.1
  | find | setFilter | clearFilter | isLoggedIn | user | storeGet =>
    exact ⟨rfl, World.Silent.refl desk.world⟩
  | _ => cases looks

/-! ### Runs -/

/-- What a step of a run came to, and what went down in the history with it: its requests, notices and
questions among all that was done and reported. -/
structure Outcome where
  step : Step
  result : Except Failure Report
  news : Journal

/-- What the steps of a run come to in turn. -/
def outcomes (desk : Desk) : List Step → List Outcome
  | [] => []
  | step :: rest =>
    ⟨step, (desk.take step).1, (desk.take step).2.world.since desk.world⟩ ::
      (desk.take step).2.outcomes rest

/-- Whether a step does more than look. -/
def Step.acts (step : Step) : Bool := !step.action.onlyLooks

/-- A run and the same run without the steps that only look, from desks that differ at most in their
terms, their histories and their far ends. -/
structure RunsAlike (desk desk' : Desk) (steps : List Step) : Prop where
  outcomes : (desk.outcomes steps).filter (fun outcome => outcome.step.acts) =
    desk'.outcomes (steps.filter Step.acts)
  core : (desk.run steps).core = (desk'.run (steps.filter Step.acts)).core
  redirects : ((desk.run steps).world.since desk.world).redirects =
    ((desk'.run (steps.filter Step.acts)).world.since desk'.world).redirects

theorem runsAlike_of_core {desk desk' : Desk} (same : desk.core = desk'.core) (steps : List Step) :
    RunsAlike desk desk' steps := by
  induction steps generalizing desk desk' with
  | nil => exact ⟨rfl, same, by simp only [List.filter_nil, run, List.foldl_nil, World.since_self]⟩
  | cons step rest ih =>
    cases looks : step.action.onlyLooks with
    | true =>
      -- the step is left out of the second run, and of the first it changes nothing that counts
      obtain ⟨core, silent⟩ := desk.take_of_looks looks
      have acts : step.acts = false := by rw [Step.acts, looks]; rfl
      have later := ih (core.trans same)
      obtain ⟨said, grown, silence⟩ := silent
      constructor
      · simpa [Desk.outcomes, acts] using later.outcomes
      · simpa [run_cons, acts] using later.core
      · rw [since_run_cons, Journal.redirects_append, World.since_eq grown, silence.redirects,
          List.filter_cons_of_neg (by simp [acts])]
        exact later.redirects
    | false =>
      -- both runs take the step, and it comes to the same in both
      have acts : step.acts = true := by rw [Step.acts, looks]; rfl
      obtain ⟨result, grown, core⟩ := desk.take_of_acts looks
      obtain ⟨result', grown', core'⟩ := desk'.take_of_acts looks
      rw [← same] at result' grown' core'
      have later := ih (core.trans core'.symm)
      have news : (desk.take step).2.world.since desk.world =
          (desk'.take step).2.world.since desk'.world := by
        rw [World.since_eq grown, World.since_eq grown']
      constructor
      · simpa [Desk.outcomes, acts, news, result, result'] using later.outcomes
      · simpa [run_cons, acts] using later.core
      · rw [List.filter_cons_of_pos acts, since_run_cons, since_run_cons, Journal.redirects_append,
          Journal.redirects_append, news, later.redirects]

/-- If all steps are left out of a run that only set the search term, look for a record, ask who is
logged in, or read the store or the token, then every other step has the same result, makes the same
requests, gives the same notices and asks the same questions, and reports the same; and in the end
the store with its file, the redirections, and the controller but for its search term are the
same. -/
theorem looking_changes_nothing (desk : Desk) (steps : List Step) :
    let acting := steps.filter Step.acts
    (desk.outcomes steps).filter (fun outcome => outcome.step.acts) = desk.outcomes acting ∧
      (desk.run acting).world.store = (desk.run steps).world.store ∧
      (desk.run acting).world.journal.redirects = (desk.run steps).world.journal.redirects ∧
      (desk.run acting).controller.collection = (desk.run steps).controller.collection ∧
      (desk.run acting).controller.draft = (desk.run steps).controller.draft ∧
      (desk.run acting).controller.editing = (desk.run steps).controller.editing ∧
      (desk.run acting).controller.formVisible = (desk.run steps).controller.formVisible := by
  intro acting
  obtain ⟨outcomes, core, redirects⟩ := runsAlike_of_core (rfl : desk.core = desk.core) steps
  have whole : ∀ steps, (desk.run steps).world.journal.redirects =
      desk.world.journal.redirects ++
        ((desk.run steps).world.since desk.world).redirects := by
    intro steps
    obtain ⟨news, grown⟩ := (leads_run desk steps).precedes
    rw [World.since_eq grown, grown, Journal.redirects_append]
  have controller := congrArg Desk.controller core
  have world := congrArg Desk.world core
  simp only [Desk.core, Controller.setFilter, Controller.mk.injEq, World.mk.injEq] at controller world
  obtain ⟨collection, draft, editing, formVisible, _⟩ := controller
  refine ⟨outcomes, world.2.1.symm, ?_, collection.symm, draft.symm, editing.symm,
    formVisible.symm⟩
  rw [whole, whole, redirects]

end Desk

end TeacherRegistry
