import ScreenFlow.Proofs.Event.Steps

/-!
# What an event comes to

`Specification.handleEvent` runs rules, and within a rule steps, on a state that changes as it goes.
Here the two loops become one list that is known beforehand: `plan` is the list of all steps of the
rules whose guards hold in the state in which the event started, and `upTo` cuts it after the first
one that ends the chain. The steps that are run are those (`runRules_runs`).

Guards and checks read values, and no step writes one (`Progress.Runs.values`); that is the
invariant that lets both be judged by the starting state.
-/

namespace ScreenFlow

/-! ## Lists that are stopped -/

/-- A list up to the first entry that stops it, and with that one. -/
def upTo {α : Type} (stops : α → Bool) : List α → List α
  | [] => []
  | x :: xs => if stops x then [x] else x :: upTo stops xs

section UpTo

variable {α : Type} (stops : α → Bool)

theorem upTo_append (xs ys : List α) :
    upTo stops (xs ++ ys) = if xs.any stops then upTo stops xs else xs ++ upTo stops ys := by
  induction xs with
  | nil => rfl
  | cons x xs ih =>
    rw [List.cons_append, upTo, upTo, ih, List.any_cons]
    cases hx : stops x <;> cases hxs : xs.any stops <;> simp

theorem upTo_eq_takeWhile_append (xs : List α) :
    upTo stops xs = xs.takeWhile (!stops ·) ++ (xs.find? stops).toList := by
  induction xs with
  | nil => rfl
  | cons x xs ih =>
    rw [upTo, ih]
    cases hx : stops x <;> simp [hx]

variable {stops}

theorem upTo_of_any_eq_false {xs : List α} (h : xs.any stops = false) : upTo stops xs = xs := by
  have := upTo_append stops xs []
  rwa [h, List.append_nil, if_neg Bool.false_ne_true, upTo, List.append_nil] at this

end UpTo

/-! ## The steps of an event -/

/-- The steps of the rules whose guards hold, each with its rule, in order. -/
def plan (values : Bindings String) (rules : List Rule) : List (Rule × Step) :=
  (rules.filter fun rule => guardsHold rule.guards values).flatMap fun rule =>
    rule.steps.map (Prod.mk rule)

/-- Whether a step of a plan ends the chain. -/
def ends (screen : Screen) (state : State) (entry : Rule × Step) : Bool :=
  entry.2.halts screen state

/-- The steps that are run on a screen: those of the plan up to one that ends the chain. -/
def executed (screen : Screen) (state : State) (rules : List Rule) : List (Rule × Step) :=
  upTo (ends screen state) (plan state.values rules)

theorem plan_cons_of_holds {values : Bindings String} {rule : Rule} (rules : List Rule)
    (h : guardsHold rule.guards values = true) :
    plan values (rule :: rules) = rule.steps.map (Prod.mk rule) ++ plan values rules := by
  unfold plan
  rw [List.filter_cons, if_pos h, List.flatMap_cons]

theorem plan_cons_of_not_holds {values : Bindings String} {rule : Rule} (rules : List Rule)
    (h : guardsHold rule.guards values = false) :
    plan values (rule :: rules) = plan values rules := by
  unfold plan
  rw [List.filter_cons, h]
  rfl

section Runs

variable (spec : Specification) (screen : Screen) {state : State}

/-- One rule: its steps up to one that ends the chain. -/
theorem runSteps_runs (rule : Rule) (steps : List Step) {progress : Progress}
    (h : progress.state.values = state.values) :
    Progress.Runs spec screen progress (runSteps spec screen rule progress steps).1
        (upTo (ends screen state) (steps.map (Prod.mk rule))) ∧
      (runSteps spec screen rule progress steps).2 =
        (steps.map (Prod.mk rule)).any (ends screen state) := by
  induction steps generalizing progress with
  | nil => exact ⟨.refl spec screen progress, rfl⟩
  | cons step steps ih =>
    have hrun := Progress.runs_run spec screen rule progress step
    rw [runSteps, Step.halts_congr screen h, List.map_cons, upTo, List.any_cons]
    have hends : ends screen state (rule, step) = step.halts screen state := rfl
    rw [hends]
    cases hhalts : step.halts screen state with
    | true => exact ⟨hrun, rfl⟩
    | false =>
      obtain ⟨hruns, hhalted⟩ := ih (hrun.values.trans h)
      exact ⟨hrun.trans hruns, hhalted⟩

/-- All rules: the steps of the plan up to one that ends the chain. -/
theorem runRules_runs (event : String) (rules : List Rule) {progress : Progress}
    (h : progress.state.values = state.values) :
    Progress.Runs spec screen progress (runRules spec screen event progress rules).1
        (executed screen state rules) ∧
      (runRules spec screen event progress rules).2 =
        (plan state.values rules).any (ends screen state) := by
  induction rules generalizing progress with
  | nil => exact ⟨.refl spec screen progress, rfl⟩
  | cons rule rules ih =>
    have hjudged := progress.runs_note spec screen
      (guardReport state.values rule.guards)
    rw [runRules, executed, h]
    cases hguards : guardsHold rule.guards state.values with
    | false =>
      have hfailed := hjudged.trans (Progress.runs_note spec screen _ [.guardFailed rule.id])
      obtain ⟨hruns, hhalted⟩ := ih (hfailed.values.trans h)
      rw [plan_cons_of_not_holds rules hguards]
      exact ⟨hfailed.trans hruns, hhalted⟩
    | true =>
      obtain ⟨hsteps, hhalts⟩ := runSteps_runs spec screen rule rule.steps
        (hjudged.values.trans h)
      have hrule := hjudged.trans hsteps
      rw [plan_cons_of_holds rules hguards, upTo_append, List.any_append, ← hhalts]
      rw [if_pos rfl]
      generalize runSteps spec screen rule _ rule.steps = result at *
      obtain ⟨after, _ | _⟩ := result
      · -- the rule did not end the chain, so all its steps were run
        obtain ⟨hruns, hhalted⟩ := ih (hrule.values.trans h)
        rw [upTo_of_any_eq_false hhalts.symm] at hrule
        exact ⟨hrule.trans hruns, hhalted⟩
      · have hnoted := hrule.trans
          (Progress.runs_note spec screen after [.chainHalted rule.id event])
        rw [List.append_nil] at hnoted
        exact ⟨hnoted, rfl⟩

end Runs

end ScreenFlow
