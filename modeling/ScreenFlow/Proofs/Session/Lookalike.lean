import ScreenFlow.Proofs.Session.Lockstep

/-!
# Specifications that no session can tell apart

A session asks three things of its specification: the screen of an id, the rules that react to an
event on a screen, and where an event leads from a screen. Two specifications that answer these alike
are `Specification.Lookalike`, whatever the order in which they list what they hold. They handle
every event alike (`handleEvent_congr`), so sessions on them have the same turns, reports included
(`Lookalike.servesLike`).
-/

namespace ScreenFlow

/-- Screens, rules for an event and ways that an event leads are looked up alike. -/
structure Specification.Lookalike (copy spec : Specification) : Prop where
  screen : ∀ id, copy.screen id = spec.screen id
  rulesFor : ∀ screenId event, copy.rulesFor screenId event = spec.rulesFor screenId event
  target? : ∀ event source, copy.target? event source = spec.target? event source

section Lookalikes

variable {copy spec : Specification} (h : copy.Lookalike spec)

include h

/-! ## Events -/

theorem run_congr (screen : Screen) (rule : Rule) (progress : Progress) (step : Step) :
    step.run copy screen rule progress = step.run spec screen rule progress := by
  cases step with
  | validate check => rfl
  | start call =>
    unfold Step.run Progress.startOperation Specification.navigate Specification.navigationReport
    simp only [h.target?]
  | unsupported => rfl

theorem runSteps_congr (screen : Screen) (rule : Rule) (progress : Progress) (steps : List Step) :
    runSteps copy screen rule progress steps = runSteps spec screen rule progress steps := by
  induction steps generalizing progress with
  | nil => rfl
  | cons step steps ih => rw [runSteps, runSteps, run_congr h, ih]

theorem runRules_congr (screen : Screen) (event : String) (progress : Progress)
    (rules : List Rule) :
    runRules copy screen event progress rules = runRules spec screen event progress rules := by
  induction rules generalizing progress with
  | nil => rfl
  | cons rule rules ih => simp only [runRules, runSteps_congr h, ih]

/-- Every event comes to the same. -/
theorem handleEvent_congr (state : State) (event : String) :
    copy.handleEvent state event = spec.handleEvent state event := by
  unfold Specification.handleEvent
  simp only [h.screen, h.rulesFor, runRules_congr h]

/-! ## Sessions -/

theorem Session.inStep_withSpecification {session : Session}
    (hspec : session.specification = spec) : session.InStep (session.withSpecification copy) where
  screen := hspec ▸ h.screen
  activeScreen := rfl

theorem Session.apply_withSpecification {session : Session}
    (hspec : session.specification = spec) (request : Request) :
    session.apply request = (session.withSpecification copy).apply request := by
  refine (inStep_withSpecification h hspec).apply Eq (fun _ _ => rfl) (fun _ _ => rfl)
    (fun component => ?_) request
  unfold Session.trigger withSpecification
  simp only [handleEvent_congr h, hspec]

theorem Session.snapshotReport_withSpecification {session : Session}
    (hspec : session.specification = spec) :
    (session.withSpecification copy).snapshotReport = session.snapshotReport := by
  unfold snapshotReport
  rw [(inStep_withSpecification h hspec).answer_activeScreen]
  rfl

theorem Session.snapshot_withSpecification {session : Session}
    (hspec : session.specification = spec) :
    (session.withSpecification copy).snapshot = session.snapshot := by
  unfold snapshot
  rw [(inStep_withSpecification h hspec).answer_activeScreen]
  rfl

/-- Sessions on specifications that look alike have the same turns. -/
theorem Specification.Lookalike.servesLike : copy.ServesLike id spec := by
  intro session hspec request
  let changed := session.withState (session.apply request).state
  have hsnapshot := @Session.snapshot_withSpecification copy spec h changed hspec
  have hreport := @Session.snapshotReport_withSpecification copy spec h changed hspec
  show (session.withSpecification copy).handle request = session.handle request
  unfold Session.handle
  rw [← Session.apply_withSpecification h hspec]
  cases hanswer : (session.apply request).answer with
  | error missing => simp only [hanswer]
  | ok _ =>
    simp only [hanswer]
    rw [← hsnapshot, ← hreport]
    rfl

/-- Sessions on specifications that look alike start alike and have the same turns. -/
theorem Specification.Lookalike.behaves (hinitial : copy.initialScreen = spec.initialScreen)
    (assets : Assets) (initial : Option String) (requests : List Request) :
    (Session.start copy assets initial).map
        (fun session => (session.state, session.turns requests)) =
      (Session.start spec assets initial).map
        (fun session => (session.state, session.turns requests)) := by
  have hbehaves := Session.behaves_of_servesLike h.servesLike (fun _ _ => congrArg Turn.state)
    h.screen hinitial assets initial requests
  simpa only [List.map_id] using hbehaves

end Lookalikes

end ScreenFlow
