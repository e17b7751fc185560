import ScreenFlow.Event

/-!
# Navigations are accounted for

Every navigation of an event is reported, and for each one reported an operation has been asked for
whose success event leads there from the screen on which the event happened; and the active screen
is one that a report leads to, or still the one of the event (`Specification.Accounts`). One step
keeps this, and so do the loops over steps and over rules (`accounts_run`, `accounts_runSteps`,
`accounts_runRules`).

That a navigation never starts from the screen to which an earlier one has led is a part of the
invariant: the source of every one is the screen of the event, though the active screen has changed
in the meantime.
-/

namespace ScreenFlow

/-- The report is none of a navigation. -/
def Diagnostic.Plain (diagnostic : Diagnostic) : Prop :=
  ∀ event source target, diagnostic ≠ .navigating event source target

theorem Diagnostic.Plain.singleton {diagnostic : Diagnostic} (h : diagnostic.Plain) :
    ∀ other ∈ [diagnostic], other.Plain :=
  List.forall_mem_singleton.2 h

/-- Operations and reports account for the way from a screen to the active one. -/
structure Specification.Accounts (spec : Specification) (screenId active : String)
    (dispatched : List Operation) (log : List Diagnostic) : Prop where
  followed : ∀ event source target, .navigating event source target ∈ log →
    source = screenId ∧ spec.target? event screenId = some target ∧
      ∃ operation ∈ dispatched, operation.screenId = screenId ∧
        operation.successEvent = some event
  arrived : active = screenId ∨ ∃ event, .navigating event screenId active ∈ log

namespace Specification.Accounts

variable {spec : Specification} {screenId active : String} {dispatched : List Operation}
  {log : List Diagnostic}

theorem start (spec : Specification) (screenId : String) : spec.Accounts screenId screenId [] [] :=
  ⟨fun _ _ _ h => (List.not_mem_nil h).elim, Or.inl rfl⟩

/-- Reports of other things account for nothing. -/
theorem note (h : spec.Accounts screenId active dispatched log) {diagnostics : List Diagnostic}
    (hplain : ∀ diagnostic ∈ diagnostics, diagnostic.Plain) :
    spec.Accounts screenId active dispatched (log ++ diagnostics) where
  followed := by
    intro event source target hmem
    rcases List.mem_append.1 hmem with hmem | hmem
    · exact h.followed event source target hmem
    · exact absurd rfl (hplain _ hmem event source target)
  arrived := h.arrived.imp_right fun ⟨event, hmem⟩ => ⟨event, List.mem_append_left _ hmem⟩

theorem note_one (h : spec.Accounts screenId active dispatched log) {diagnostic : Diagnostic}
    (hplain : diagnostic.Plain) :
    spec.Accounts screenId active dispatched (log ++ [diagnostic]) :=
  h.note hplain.singleton

/-- An operation may lead nowhere. -/
theorem dispatch (h : spec.Accounts screenId active dispatched log) (operation : Operation) :
    spec.Accounts screenId active (dispatched ++ [operation]) log where
  followed := by
    intro event source target hmem
    obtain ⟨hsource, htarget, asked, hasked, hscreen, hsuccess⟩ :=
      h.followed event source target hmem
    exact ⟨hsource, htarget, asked, List.mem_append_left _ hasked, hscreen, hsuccess⟩
  arrived := h.arrived

/-- The success event of an operation that was asked for is followed. -/
theorem navigate (h : spec.Accounts screenId active dispatched log) {operation : Operation}
    (hasked : operation ∈ dispatched) (hscreen : operation.screenId = screenId)
    {event target : String} (hsuccess : operation.successEvent = some event)
    (htarget : spec.target? event screenId = some target) :
    spec.Accounts screenId target dispatched (log ++ [.navigating event screenId target]) where
  followed := by
    intro other source destination hmem
    rcases List.mem_append.1 hmem with hmem | hmem
    · exact h.followed other source destination hmem
    · obtain ⟨rfl, rfl, rfl⟩ := Diagnostic.navigating.inj (List.mem_singleton.1 hmem)
      exact ⟨rfl, htarget, operation, hasked, hscreen, hsuccess⟩
  arrived := Or.inr ⟨event, List.mem_append_right _ (List.mem_singleton.2 rfl)⟩

end Specification.Accounts

/-! ## Steps and rules -/

/-- What has been run so far accounts for its navigations. -/
abbrev Progress.Accounts (spec : Specification) (screen : Screen) (progress : Progress) : Prop :=
  spec.Accounts screen.id progress.state.activeScreen progress.dispatched progress.log

theorem plain_guardReport (values : Bindings String) (guards : List Condition) :
    ∀ diagnostic ∈ guardReport values guards, diagnostic.Plain := by
  induction guards with
  | nil => intro _ hmem; cases hmem
  | cons guard guards ih =>
    intro diagnostic hmem
    rcases List.mem_append.1 hmem with hmem | hmem
    · unfold Condition.report at hmem
      cases hcomparator : guard.comparator <;> rw [hcomparator] at hmem
      case other name unknown =>
        obtain rfl := List.mem_singleton.1 hmem
        exact nofun
      all_goals cases hmem
    · split at hmem
      · exact ih diagnostic hmem
      · cases hmem

variable (spec : Specification) (screen : Screen)

theorem accounts_checkField {progress : Progress} (h : progress.Accounts spec screen)
    (key : String) : (progress.checkField screen key).Accounts spec screen := by
  unfold Progress.checkField
  cases screen.textField? key with
  | none => exact h.note_one nofun
  | some field =>
    show spec.Accounts screen.id (progress.state.setError key _).activeScreen _ _
    rw [State.activeScreen_setError]
    exact h

theorem accounts_startOperation {progress : Progress} (h : progress.Accounts spec screen)
    (rule : Rule) (call : OperationCall) :
    (progress.startOperation spec screen rule call).Accounts spec screen := by
  have hstarted : spec.Accounts screen.id progress.state.activeScreen
      (progress.dispatched ++ [.ofCall screen.id rule.id call])
      (progress.log ++ [.operationStarted rule.id call.operation]) :=
    (h.dispatch _).note_one nofun
  have hasked : Operation.ofCall screen.id rule.id call ∈
      progress.dispatched ++ [.ofCall screen.id rule.id call] :=
    List.mem_append_right _ (List.mem_singleton.2 rfl)
  unfold Progress.startOperation
  cases hevent : call.successEvent with
  | none => exact hstarted
  | some event =>
    simp only [Specification.navigate, Specification.navigationReport]
    cases htarget : spec.target? event screen.id with
    | none => exact hstarted.note_one nofun
    | some target => exact hstarted.navigate hasked rfl hevent htarget

/-- One step. -/
theorem accounts_run (rule : Rule) {progress : Progress} (h : progress.Accounts spec screen)
    (step : Step) : (step.run spec screen rule progress).Accounts spec screen := by
  cases step with
  | validate check =>
    show (check.fields.foldl _ progress).Accounts spec screen
    induction check.fields generalizing progress with
    | nil => exact h
    | cons key keys ih => exact ih (accounts_checkField spec screen h key)
  | start call => exact accounts_startOperation spec screen h rule call
  | unsupported => exact h.note_one nofun

theorem accounts_runSteps (rule : Rule) {progress : Progress} (h : progress.Accounts spec screen)
    (steps : List Step) :
    (runSteps spec screen rule progress steps).1.Accounts spec screen := by
  induction steps generalizing progress with
  | nil => exact h
  | cons step steps ih =>
    have hstep := accounts_run spec screen rule h step
    rw [runSteps]
    split
    · exact hstep
    · exact ih hstep

theorem accounts_runRules (event : String) {progress : Progress}
    (h : progress.Accounts spec screen) (rules : List Rule) :
    (runRules spec screen event progress rules).1.Accounts spec screen := by
  induction rules generalizing progress with
  | nil => exact h
  | cons rule rules ih =>
    have hjudged : (progress.note (guardReport progress.state.values rule.guards)).Accounts spec
      screen := h.note (plain_guardReport _ _)
    rw [runRules]
    split
    · have hsteps := accounts_runSteps spec screen rule hjudged rule.steps
      generalize runSteps spec screen rule _ rule.steps = result at hsteps
      obtain ⟨after, _ | _⟩ := result
      · exact ih hsteps
      · exact hsteps.note_one nofun
    · exact ih (hjudged.note_one nofun)

/-- An event accounts for its navigations, from the screen on which it happens. -/
theorem accounts_handleEvent {state : State} {event : String} {outcome : Outcome}
    (hscreen : spec.screen state.activeScreen = .ok screen)
    (hactive : screen.id = state.activeScreen)
    (houtcome : spec.handleEvent state event = .ok outcome) :
    spec.Accounts screen.id outcome.state.activeScreen outcome.dispatched outcome.log := by
  have hstart : (Progress.start state).Accounts spec screen := by
    show spec.Accounts screen.id state.activeScreen [] []
    rw [← hactive]
    exact .start spec screen.id
  unfold Specification.handleEvent at houtcome
  rw [hscreen] at houtcome
  change (if (spec.rulesFor screen.id event).isEmpty then _ else _) = _ at houtcome
  split at houtcome
  · obtain rfl := Except.ok.inj houtcome
    exact hstart.note_one nofun
  · obtain rfl := Except.ok.inj houtcome
    exact accounts_runRules spec screen event hstart _

end ScreenFlow
