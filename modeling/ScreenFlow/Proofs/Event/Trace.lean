import ScreenFlow.Proofs.Event.ClosedForm

/-!
# The steps that an event runs

`Specification.trace` lists the steps that an event runs, in order, each with its rule. It goes
through the rules as `runRules` does: guards and checks are judged by the state that they meet, and
the step that ends the chain is the last one.

What is listed could have been told before the event (`trace_eq_executed`): it is the plan that the
starting values make, cut off after the first step that ends the chain. The invariant is once more
that no step writes a value. So the outcome of an event is what the steps of its trace come to
(`runs_trace`).
-/

namespace ScreenFlow

variable (spec : Specification) (screen : Screen)

/-- The steps of a rule that are run, from what has been run before. -/
def traceSteps (rule : Rule) (progress : Progress) : List Step → List (Rule × Step)
  | [] => []
  | step :: steps =>
    if step.halts screen progress.state then [(rule, step)]
    else (rule, step) :: traceSteps rule (step.run spec screen rule progress) steps

/-- The steps of rules that are run, from what has been run before. -/
def traceRules (event : String) (progress : Progress) : List Rule → List (Rule × Step)
  | [] => []
  | rule :: rules =>
    let judged := progress.note (guardReport progress.state.values rule.guards)
    if guardsHold rule.guards progress.state.values then
      traceSteps spec screen rule judged rule.steps ++
        match runSteps spec screen rule judged rule.steps with
        | (_, true) => []
        | (after, false) => traceRules event after rules
    else traceRules event (judged.note [.guardFailed rule.id]) rules

/-- The steps that an event runs on the active screen, in order. -/
def Specification.trace (state : State) (event : String) : List (Rule × Step) :=
  match spec.screen state.activeScreen with
  | .error _ => []
  | .ok screen => traceRules spec screen event (.start state) (spec.rulesFor screen.id event)

/-! ## Traces are known beforehand -/

variable {state : State}

theorem traceSteps_eq (rule : Rule) (steps : List Step) {progress : Progress}
    (h : progress.state.values = state.values) :
    traceSteps spec screen rule progress steps =
      upTo (ends screen state) (steps.map (Prod.mk rule)) := by
  induction steps generalizing progress with
  | nil => rfl
  | cons step steps ih =>
    have hrun := Progress.runs_run spec screen rule progress step
    have hends : ends screen state (rule, step) = step.halts screen state := rfl
    rw [traceSteps, Step.halts_congr screen h, List.map_cons, upTo, hends]
    by_cases hhalts : step.halts screen state = true
    · rw [if_pos hhalts, if_pos hhalts]
    · rw [if_neg hhalts, if_neg hhalts, ih (hrun.values.trans h)]

theorem traceRules_eq_executed (event : String) (rules : List Rule) {progress : Progress}
    (h : progress.state.values = state.values) :
    traceRules spec screen event progress rules = executed screen state rules := by
  induction rules generalizing progress with
  | nil => rfl
  | cons rule rules ih =>
    have hjudged : (progress.note (guardReport state.values rule.guards)).state.values =
        state.values := h
    unfold executed
    rw [traceRules, h]
    by_cases hguards : guardsHold rule.guards state.values = true
    · obtain ⟨hruns, hhalts⟩ := runSteps_runs spec screen rule rule.steps hjudged
      have hvalues := hruns.values.trans hjudged
      rw [if_pos hguards, traceSteps_eq spec screen rule rule.steps hjudged,
        plan_cons_of_holds rules hguards, upTo_append, ← hhalts]
      generalize runSteps spec screen rule _ rule.steps = result at *
      obtain ⟨after, _ | _⟩ := result
      · -- the rule did not end the chain, so its trace is all of its steps
        rw [upTo_of_any_eq_false hhalts.symm, if_neg Bool.false_ne_true]
        exact congrArg _ (ih hvalues)
      · rw [if_pos rfl, List.append_nil]
    · rw [if_neg hguards, plan_cons_of_not_holds rules (eq_false_of_ne_true hguards)]
      exact ih hjudged

theorem Specification.trace_eq_executed {spec : Specification} {screen : Screen} (event : String)
    (h : spec.screen state.activeScreen = .ok screen) :
    spec.trace state event = executed screen state (spec.matching screen event) := by
  unfold trace
  rw [h]
  dsimp only
  rw [rulesFor_eq]
  exact traceRules_eq_executed spec screen event _ rfl

/-- An event on a screen that is there comes to what the steps of its trace come to. -/
theorem Specification.runs_trace {spec : Specification} {screen : Screen} (event : String)
    (h : spec.screen state.activeScreen = .ok screen) :
    ∃ outcome, spec.handleEvent state event = .ok outcome ∧
      Progress.Runs spec screen (.start state) outcome.progress (spec.trace state event) := by
  obtain ⟨outcome, houtcome, hruns, _⟩ := spec.runs_handleEvent event h
  rw [← spec.trace_eq_executed event h] at hruns
  exact ⟨outcome, houtcome, hruns⟩

end ScreenFlow
