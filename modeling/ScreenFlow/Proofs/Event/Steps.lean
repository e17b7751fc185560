import ScreenFlow.Event

/-!
# What one step does

A step of a rule touches the state, the list of operations and the mark of a navigation. Each of the
three is given on its own, as a function of the step and of the screen on which the event happened:
`Step.advance`, `Step.operation?` and `Step.target?`. `Progress.Runs` says what several steps come
to, and is proved of one step (`runs_run`) and kept by sequences (`Runs.trans`).

No step writes a value (`values_advance`). What a step judges are values only, so whether it ends
the chain can be told from the state in which the event started (`halts_congr`).
-/

namespace ScreenFlow

/-! ## The parts of a step -/

/-- The state after checking the field bound to a key. -/
def State.checkField (screen : Screen) (state : State) (key : String) : State :=
  match screen.textField? key with
  | none => state
  | some field => state.setError key (field.error? (state.value key))

namespace Step

/-- The screen that a step leads to. -/
def target? (spec : Specification) (screen : Screen) : Step → Option String
  | .start call => call.successEvent.bind (spec.target? · screen.id)
  | .validate _ | .unsupported => none

/-- The operation that a step of a rule asks for. -/
def operation? (screen : Screen) (rule : Rule) : Step → Option Operation
  | .start call => some (.ofCall screen.id rule.id call)
  | .validate _ | .unsupported => none

/-- The state after a step. -/
def advance (spec : Specification) (screen : Screen) (state : State) (step : Step) : State :=
  match step with
  | .validate check => check.fields.foldl (State.checkField screen) state
  | .start _ => ((step.target? spec screen).map state.moveTo).getD state
  | .unsupported => state

/-- What a step leaves as the error of a key, when the error is `current` before. -/
def errorAfter (spec : Specification) (screen : Screen) (state : State) (key : String)
    (current : Option String) (step : Step) : Option String :=
  match step with
  | .validate check =>
    if key ∈ check.fields then
      match screen.textField? key with
      | some field => field.error? (state.value key)
      | none => current
    else current
  | .start _ => if (step.target? spec screen).isSome then none else current
  | .unsupported => current

end Step

/-! ## States -/

theorem Screen.textField?_eq_some {screen : Screen} {key : String} {field : TextField}
    (h : screen.textField? key = some field) :
    ∃ component ∈ screen.components, component.textField? = some field ∧
      component.bindingKey = key := by
  obtain ⟨component, hmem, hfield⟩ := List.exists_of_findSome?_eq_some h
  rw [List.mem_filter, decide_eq_true_eq] at hmem
  exact ⟨component, hmem.1, hfield, hmem.2⟩

theorem State.value_congr {state other : State} (h : state.values = other.values) (key : String) :
    state.value key = other.value key := by
  unfold State.value
  rw [h]

@[simp] theorem State.values_checkField (screen : Screen) (state : State) (key : String) :
    (state.checkField screen key).values = state.values := by
  unfold State.checkField
  split <;> simp

@[simp] theorem State.activeScreen_checkField (screen : Screen) (state : State) (key : String) :
    (state.checkField screen key).activeScreen = state.activeScreen := by
  unfold State.checkField
  split <;> simp

theorem State.values_foldl_checkField (screen : Screen) (keys : List String) (state : State) :
    (keys.foldl (State.checkField screen) state).values = state.values := by
  induction keys generalizing state with
  | nil => rfl
  | cons key keys ih => rw [List.foldl_cons, ih, State.values_checkField]

theorem State.activeScreen_foldl_checkField (screen : Screen) (keys : List String) (state : State) :
    (keys.foldl (State.checkField screen) state).activeScreen = state.activeScreen := by
  induction keys generalizing state with
  | nil => rfl
  | cons key keys ih => rw [List.foldl_cons, ih, State.activeScreen_checkField]

/-- Checking a list of keys settles the errors of those that a text field is bound to, however often
a key is listed, and leaves all others. -/
theorem State.errors_foldl_checkField (screen : Screen) (keys : List String) (state : State)
    (key : String) :
    (keys.foldl (State.checkField screen) state).errors.get? key =
      if key ∈ keys then
        match screen.textField? key with
        | some field => field.error? (state.value key)
        | none => state.errors.get? key
      else state.errors.get? key := by
  induction keys generalizing state with
  | nil => rfl
  | cons first keys ih =>
    rw [List.foldl_cons, ih, State.value_congr (State.values_checkField screen state first)]
    have hfirst : (state.checkField screen first).errors.get? key =
        if key = first then
          match screen.textField? key with
          | some field => field.error? (state.value key)
          | none => state.errors.get? key
        else state.errors.get? key := by
      unfold State.checkField
      by_cases h : key = first
      · subst h
        cases screen.textField? key <;> simp [State.get?_errors_setError]
      · cases screen.textField? first <;> simp [State.get?_errors_setError, h]
    rw [hfirst]
    by_cases h : key = first <;> by_cases hmem : key ∈ keys <;>
      cases screen.textField? key <;> simp [h, hmem]

namespace Step

variable (spec : Specification) (screen : Screen)

@[simp] theorem values_advance (state : State) (step : Step) :
    (step.advance spec screen state).values = state.values := by
  cases step with
  | validate check => exact State.values_foldl_checkField screen check.fields state
  | start call =>
    unfold advance
    cases (Step.start call).target? spec screen <;> rfl
  | unsupported => rfl

/-- Steps write no value. -/
theorem values_foldl_advance (entries : List (Rule × Step)) (state : State) :
    (entries.foldl (fun state entry => entry.2.advance spec screen state) state).values =
      state.values := by
  induction entries generalizing state with
  | nil => rfl
  | cons entry entries ih => rw [List.foldl_cons, ih, values_advance]

theorem activeScreen_advance (state : State) (step : Step) :
    (step.advance spec screen state).activeScreen =
      (step.target? spec screen).getD state.activeScreen := by
  cases step with
  | validate check => exact State.activeScreen_foldl_checkField screen check.fields state
  | start call =>
    unfold advance
    cases (Step.start call).target? spec screen <;> rfl
  | unsupported => rfl

theorem errors_advance (state : State) (step : Step) (key : String) :
    (step.advance spec screen state).errors.get? key =
      step.errorAfter spec screen state key (state.errors.get? key) := by
  cases step with
  | validate check => exact State.errors_foldl_checkField screen check.fields state key
  | start call =>
    unfold advance errorAfter
    cases (Step.start call).target? spec screen <;> rfl
  | unsupported => rfl

theorem errorAfter_congr {state other : State} (h : state.values = other.values) (key : String)
    (current : Option String) (step : Step) :
    step.errorAfter spec screen state key current =
      step.errorAfter spec screen other key current := by
  unfold errorAfter
  rw [State.value_congr h]

theorem halts_congr {state other : State} (h : state.values = other.values) (step : Step) :
    step.halts screen state = step.halts screen other := by
  unfold halts FieldCheck.fails
  simp only [State.value_congr h]

theorem operation?_eq_none_of_halts {state : State} {step : Step}
    (h : step.halts screen state = true) (rule : Rule) : step.operation? screen rule = none := by
  cases step with
  | validate check => rfl
  | start call => cases h
  | unsupported => rfl

end Step

/-! ## Several steps -/

/-- What running steps of rules comes to, all else than reports. -/
structure Progress.Runs (spec : Specification) (screen : Screen) (before after : Progress)
    (entries : List (Rule × Step)) : Prop where
  state : after.state =
    entries.foldl (fun state entry => entry.2.advance spec screen state) before.state
  navigated : after.navigated =
    (before.navigated || entries.any fun entry => (entry.2.target? spec screen).isSome)
  dispatched : after.dispatched =
    before.dispatched ++ entries.filterMap fun entry => entry.2.operation? screen entry.1

namespace Progress

variable {spec : Specification} {screen : Screen}

theorem Runs.trans {before middle after : Progress} {entries later : List (Rule × Step)}
    (h : Runs spec screen before middle entries) (hlater : Runs spec screen middle after later) :
    Runs spec screen before after (entries ++ later) := by
  refine ⟨?_, ?_, ?_⟩
  · rw [hlater.state, h.state, List.foldl_append]
  · rw [hlater.navigated, h.navigated, List.any_append, Bool.or_assoc]
  · rw [hlater.dispatched, h.dispatched, List.filterMap_append, List.append_assoc]

theorem Runs.values {before after : Progress} {entries : List (Rule × Step)}
    (h : Runs spec screen before after entries) : after.state.values = before.state.values := by
  rw [h.state, Step.values_foldl_advance]

variable (spec screen)

theorem Runs.refl (progress : Progress) : Runs spec screen progress progress [] :=
  ⟨rfl, by simp, by simp⟩

theorem runs_note (before : Progress) (diagnostics : List Diagnostic) :
    Runs spec screen before (before.note diagnostics) [] :=
  ⟨rfl, by simp [note], by simp [note]⟩

theorem checkField_parts (progress : Progress) (key : String) :
    (progress.checkField screen key).state = progress.state.checkField screen key ∧
      (progress.checkField screen key).navigated = progress.navigated ∧
      (progress.checkField screen key).dispatched = progress.dispatched := by
  unfold checkField State.checkField
  cases screen.textField? key <;> exact ⟨rfl, rfl, rfl⟩

theorem foldl_checkField_parts (keys : List String) (progress : Progress) :
    (keys.foldl (checkField screen) progress).state =
        keys.foldl (State.checkField screen) progress.state ∧
      (keys.foldl (checkField screen) progress).navigated = progress.navigated ∧
      (keys.foldl (checkField screen) progress).dispatched = progress.dispatched := by
  induction keys generalizing progress with
  | nil => exact ⟨rfl, rfl, rfl⟩
  | cons key keys ih =>
    obtain ⟨hstate, hnavigated, hdispatched⟩ := checkField_parts screen progress key
    obtain ⟨ihstate, ihnavigated, ihdispatched⟩ := ih (progress.checkField screen key)
    rw [List.foldl_cons, List.foldl_cons, ← hstate]
    exact ⟨ihstate, ihnavigated.trans hnavigated, ihdispatched.trans hdispatched⟩

/-- One step of a rule. -/
theorem runs_run (rule : Rule) (progress : Progress) (step : Step) :
    Runs spec screen progress (step.run spec screen rule progress) [(rule, step)] := by
  cases step with
  | validate check =>
    obtain ⟨hstate, hnavigated, hdispatched⟩ :=
      foldl_checkField_parts screen check.fields progress
    refine ⟨hstate, hnavigated.trans ?_, hdispatched.trans ?_⟩
    · simp [Step.target?]
    · simp [Step.operation?]
  | start call =>
    unfold Step.run startOperation
    cases hevent : call.successEvent with
    | none => refine ⟨?_, ?_, ?_⟩ <;> simp [Step.advance, Step.target?, Step.operation?, hevent]
    | some event =>
      simp only [Specification.navigate]
      cases htarget : spec.target? event screen.id <;> refine ⟨?_, ?_, ?_⟩ <;>
        simp [Step.advance, Step.target?, Step.operation?, hevent, htarget]
  | unsupported => exact ⟨rfl, by simp [Step.run, note, Step.target?], by
      simp [Step.run, note, Step.operation?]⟩

end Progress

end ScreenFlow
