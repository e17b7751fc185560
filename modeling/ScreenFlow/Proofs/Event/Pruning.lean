import ScreenFlow.Proofs.Event.ClosedForm

/-!
# Events without what is not understood

A specification may hold guards with comparators that are not known, steps that are not supported,
and checks of keys that no text field is bound to. All of these are passed over, and
`Specification.pruned` is the specification without them. An event comes to the same on both but for
its reports (`handleEvent_pruned`).

1. A guard that is left out holds, so the same rules are run (`guardsHold_pruned`).
2. A step that is left out, or of which keys are left out, touches nothing else and ends the chain
   exactly if the original does (`advance_pruned?`, `halts_pruned?`, `operation?_pruned?`).
3. So the steps that are run are those of the original, each one pruned (`executed_pruned`).
-/

namespace ScreenFlow

/-! ## Pruning -/

/-- Whether the comparator of a condition is known. -/
def Condition.isKnown (condition : Condition) : Bool :=
  match condition.comparator with
  | .isNotEmpty | .isEmpty => true
  | .other _ _ => false

/-- Some text field of some screen is bound to a key. -/
def Specification.BindsKey (spec : Specification) (key : String) : Prop :=
  ∃ screen ∈ spec.screens, ∃ component ∈ screen.components,
    component.textField?.isSome ∧ component.bindingKey = key

instance (spec : Specification) (key : String) : Decidable (spec.BindsKey key) :=
  inferInstanceAs (Decidable (∃ screen ∈ spec.screens, _))

/-- The step without keys that nothing is bound to; none if it is not supported. -/
def Step.pruned? (spec : Specification) : Step → Option Step
  | .validate check =>
    some (.validate { check with fields := check.fields.filter fun key => spec.BindsKey key })
  | .start call => some (.start call)
  | .unsupported => none

/-- The rule without guards, steps and keys that are passed over. -/
def Rule.pruned (spec : Specification) (rule : Rule) : Rule :=
  { rule with
    guards := rule.guards.filter Condition.isKnown
    steps := rule.steps.filterMap (Step.pruned? spec) }

/-- The specification without guards, steps and keys that are passed over. -/
def Specification.pruned (spec : Specification) : Specification :=
  { spec with rules := spec.rules.map (Rule.pruned spec) }

/-! ## Guards -/

theorem Condition.holds_of_not_isKnown {condition : Condition} (h : condition.isKnown = false)
    (values : Bindings String) : condition.holds values = true := by
  obtain ⟨key, comparator, value⟩ := condition
  cases comparator with
  | isNotEmpty => cases h
  | isEmpty => cases h
  | other name unknown => rfl

theorem guardsHold_pruned (spec : Specification) (rule : Rule) (values : Bindings String) :
    guardsHold (rule.pruned spec).guards values = guardsHold rule.guards values := by
  show (rule.guards.filter Condition.isKnown).all _ = rule.guards.all _
  rw [List.all_filter]
  congr 1
  funext guard
  cases hknown : guard.isKnown with
  | true => rfl
  | false => rw [Condition.holds_of_not_isKnown hknown]; rfl

/-! ## Steps -/

section Steps

variable {spec : Specification} {screen : Screen} (hscreen : screen ∈ spec.screens)

include hscreen

theorem textField?_of_not_bindsKey {key : String} (h : ¬ spec.BindsKey key) :
    screen.textField? key = none := by
  rw [Option.eq_none_iff_forall_ne_some]
  intro field hfield
  obtain ⟨component, hcomponent, htext, hbound⟩ := Screen.textField?_eq_some hfield
  refine h ⟨screen, hscreen, component, hcomponent, ?_, hbound⟩
  rw [htext]
  rfl

theorem foldl_checkField_pruned (keys : List String) (state : State) :
    (keys.filter fun key => spec.BindsKey key).foldl (State.checkField screen) state =
      keys.foldl (State.checkField screen) state := by
  rw [List.foldl_filter]
  congr 1
  funext state key
  by_cases hbound : spec.BindsKey key
  · simp only [hbound, decide_true, if_true]
  · simp only [hbound, decide_false, Bool.false_eq_true, if_false, State.checkField,
      textField?_of_not_bindsKey hscreen hbound]

theorem fails_pruned (check : FieldCheck) (state : State) :
    FieldCheck.fails { check with fields := check.fields.filter fun key => spec.BindsKey key }
      screen state = check.fails screen state := by
  unfold FieldCheck.fails
  rw [List.any_filter]
  congr 1
  funext key
  by_cases hbound : spec.BindsKey key
  · simp only [hbound, decide_true, Bool.true_and]
  · simp only [textField?_of_not_bindsKey hscreen hbound, Option.any_none, Bool.and_false]

theorem halts_pruned? (state : State) (step : Step) :
    ((step.pruned? spec).any fun pruned => pruned.halts screen state) =
      step.halts screen state := by
  cases step with
  | validate check =>
    show (check.stopOnError && _) = (check.stopOnError && _)
    rw [fails_pruned hscreen]
  | start call => rfl
  | unsupported => rfl

theorem advance_pruned? (state : State) (step : Step) :
    ((step.pruned? spec).elim state fun pruned => pruned.advance spec.pruned screen state) =
      step.advance spec screen state := by
  cases step with
  | validate check => exact foldl_checkField_pruned hscreen check.fields state
  | start call => rfl
  | unsupported => rfl

end Steps

theorem operation?_pruned? (spec : Specification) (screen : Screen) (rule : Rule) (step : Step) :
    ((step.pruned? spec).bind fun pruned => pruned.operation? screen (rule.pruned spec)) =
      step.operation? screen rule := by
  cases step <;> rfl

theorem target?_pruned? (spec : Specification) (screen : Screen) (step : Step) :
    ((step.pruned? spec).any fun pruned => (pruned.target? spec.pruned screen).isSome) =
      (step.target? spec screen).isSome := by
  cases step <;> rfl

/-! ## Several steps -/

/-- A step of a plan with its rule, both pruned. -/
def prunedStep? (spec : Specification) (entry : Rule × Step) : Option (Rule × Step) :=
  (entry.2.pruned? spec).map (Prod.mk (entry.1.pruned spec))

theorem plan_pruned (spec : Specification) (values : Bindings String) (rules : List Rule) :
    plan values (rules.map (Rule.pruned spec)) =
      (plan values rules).filterMap (prunedStep? spec) := by
  induction rules with
  | nil => rfl
  | cons rule rules ih =>
    have hguards := guardsHold_pruned spec rule values
    rw [List.map_cons]
    cases hholds : guardsHold rule.guards values with
    | false =>
      rw [plan_cons_of_not_holds _ (hguards.trans hholds), plan_cons_of_not_holds _ hholds, ih]
    | true =>
      have hsteps : (rule.pruned spec).steps.map (Prod.mk (rule.pruned spec)) =
          (rule.steps.map (Prod.mk rule)).filterMap (prunedStep? spec) := by
        show (rule.steps.filterMap (Step.pruned? spec)).map _ = _
        rw [List.map_filterMap, List.filterMap_map]
        rfl
      rw [plan_cons_of_holds _ (hguards.trans hholds), plan_cons_of_holds _ hholds, ih, hsteps,
        List.filterMap_append]

/-- Cutting a list off and dropping entries that do not stop it can be done in either order. -/
theorem upTo_filterMap {α β : Type} {f : α → Option β} {stops : α → Bool} {stops' : β → Bool}
    (h : ∀ x, (f x).any stops' = stops x) (xs : List α) :
    upTo stops' (xs.filterMap f) = (upTo stops xs).filterMap f := by
  induction xs with
  | nil => rfl
  | cons x xs ih =>
    have hx := h x
    rw [upTo, List.filterMap_cons]
    cases hfx : f x with
    | none =>
      rw [hfx] at hx
      rw [← hx]
      simp only [Option.any_none, Bool.false_eq_true, if_false, List.filterMap_cons, hfx, ih]
    | some y =>
      rw [hfx] at hx
      rw [← hx]
      simp only [Option.any_some, upTo, ih]
      split <;> simp only [List.filterMap_cons, List.filterMap_nil, hfx]

section Runs

variable {spec : Specification} {screen : Screen} (hscreen : screen ∈ spec.screens)

include hscreen

theorem ends_prunedStep? (state : State) (entry : Rule × Step) :
    (prunedStep? spec entry).any (ends screen state) = ends screen state entry := by
  rw [prunedStep?, Option.any_map]
  exact halts_pruned? hscreen state entry.2

theorem executed_pruned (state : State) (rules : List Rule) :
    executed screen state (rules.map (Rule.pruned spec)) =
      (executed screen state rules).filterMap (prunedStep? spec) := by
  unfold executed
  rw [plan_pruned, upTo_filterMap (ends_prunedStep? hscreen state)]

theorem any_ends_pruned (state : State) (rules : List Rule) :
    (plan state.values (rules.map (Rule.pruned spec))).any (ends screen state) =
      (plan state.values rules).any (ends screen state) := by
  rw [plan_pruned, List.any_filterMap]
  congr 1
  funext entry
  rw [← ends_prunedStep? hscreen state entry]
  cases prunedStep? spec entry <;> rfl

/-- Pruned steps come to what the steps come to. -/
theorem runs_pruned {before after pruned : Progress} {entries : List (Rule × Step)}
    (h : Progress.Runs spec screen before after entries)
    (hpruned : Progress.Runs spec.pruned screen before pruned
      (entries.filterMap (prunedStep? spec))) :
    pruned.state = after.state ∧ pruned.navigated = after.navigated ∧
      pruned.dispatched = after.dispatched := by
  refine ⟨?_, ?_, ?_⟩
  · rw [hpruned.state, h.state, List.foldl_filterMap]
    congr 1
    funext state entry
    rw [← advance_pruned? hscreen state entry.2, prunedStep?]
    cases entry.2.pruned? spec <;> rfl
  · rw [hpruned.navigated, h.navigated, List.any_filterMap]
    congr 2
    funext entry
    rw [← target?_pruned? spec screen entry.2, prunedStep?]
    cases entry.2.pruned? spec <;> rfl
  · rw [hpruned.dispatched, h.dispatched, List.filterMap_filterMap]
    congr 2
    funext entry
    rw [← operation?_pruned? spec screen entry.1 entry.2, prunedStep?]
    cases entry.2.pruned? spec <;> rfl

end Runs

/-! ## Events -/

theorem matching_pruned (spec : Specification) (screen : Screen) (event : String) :
    spec.pruned.matching screen event = (spec.matching screen event).map (Rule.pruned spec) := by
  unfold Specification.matching
  show List.filter _ (spec.rules.map _) = _
  rw [List.filter_map]
  rfl

/-- All that an event comes to, but for its reports. -/
def Outcome.withoutLog (outcome : Outcome) : Outcome := { outcome with log := [] }

/-- An event comes to the same on the pruned specification, but for its reports. -/
theorem handleEvent_pruned (spec : Specification) (state : State) (event : String) :
    (spec.pruned.handleEvent state event).map Outcome.withoutLog =
      (spec.handleEvent state event).map Outcome.withoutLog := by
  cases hscreen : spec.screen state.activeScreen with
  | error missing =>
    have hpruned : spec.pruned.screen state.activeScreen = .error missing := hscreen
    unfold Specification.handleEvent
    rw [hscreen, hpruned]
    rfl
  | ok screen =>
    have hmem := Specification.mem_of_screen_eq_ok hscreen
    obtain ⟨outcome, houtcome, hruns, hmatched, hhalted⟩ := spec.runs_handleEvent event hscreen
    have hscreen' : spec.pruned.screen state.activeScreen = .ok screen := hscreen
    obtain ⟨pruned, hpruned, hruns', hmatched', hhalted'⟩ :=
      spec.pruned.runs_handleEvent event hscreen'
    rw [matching_pruned, executed_pruned hmem] at hruns'
    rw [matching_pruned, List.length_map, ← hmatched] at hmatched'
    rw [matching_pruned, any_ends_pruned hmem, ← hhalted] at hhalted'
    obtain ⟨hstate, hnavigated, hdispatched⟩ := runs_pruned hmem hruns hruns'
    change pruned.state = outcome.state at hstate
    change pruned.navigated = outcome.navigated at hnavigated
    change pruned.dispatched = outcome.dispatched at hdispatched
    rw [houtcome, hpruned]
    show Except.ok pruned.withoutLog = Except.ok outcome.withoutLog
    unfold Outcome.withoutLog
    rw [hstate, hmatched', hnavigated, hhalted', hdispatched]

end ScreenFlow
