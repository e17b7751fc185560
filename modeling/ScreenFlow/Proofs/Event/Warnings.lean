import Mathlib.Logic.Basic
import ScreenFlow.Proofs.Event.ClosedForm

/-!
# Warnings of an event

Whatever an event passes over is reported as a warning, once and in order. `Specification.warnings`
lists the warnings of an event from the state in which it starts:

1. a rule is reached if no rule before it runs a step that ends the chain (`Specification.reached`);
2. of a rule that is reached, the conditions with an unknown comparator are passed over, up to the
   first condition that is false, and if none is false, what its steps pass over (`Rule.warnings`);
3. of the steps, those up to the first one that ends the chain count, and that one does too, since it
   checks all its fields before it ends the chain (`Rule.executed`).

`Progress.Warns` says what running adds to the warnings there were. It is proved of one step
(`warns_run`), then of the loops over steps and over rules (`warns_runSteps`, `warns_runRules`). As
for all else that an event comes to, the invariant is that no step writes a value.
-/

namespace ScreenFlow

/-! ## What is passed over -/

/-- The warning of a condition whose comparator is not known. -/
def Condition.warning? (condition : Condition) : Option Diagnostic :=
  match condition.comparator with
  | .other name _ => some (.unknownComparator name condition.field)
  | .isNotEmpty | .isEmpty => none

/-- A text field of the screen is bound to the key. -/
def Screen.HasField (screen : Screen) (key : String) : Prop :=
  ∃ component ∈ screen.components, component.bindingKey = key ∧ component.textField?.isSome

instance (screen : Screen) (key : String) : Decidable (screen.HasField key) :=
  inferInstanceAs (Decidable (∃ _ ∈ _, _))

/-- A transition leaves the screen for the event. -/
def Specification.Leaves (spec : Specification) (screen : Screen) (event : String) : Prop :=
  ∃ transition ∈ spec.transitions, transition.event = event ∧ transition.source = screen.id

instance (spec : Specification) (screen : Screen) (event : String) :
    Decidable (spec.Leaves screen event) :=
  inferInstanceAs (Decidable (∃ _ ∈ _, _))

/-- The warnings of a step of a rule: a check passes over keys to which no text field is bound, and
an operation over a success event that leads nowhere. -/
def Step.warnings (spec : Specification) (screen : Screen) (rule : Rule) : Step → List Diagnostic
  | .validate check =>
    (check.fields.filter fun key => ¬ screen.HasField key).map (.fieldSkipped · screen.id)
  | .start call =>
    (call.successEvent.toList.filter fun event => ¬ spec.Leaves screen event).map
      (.noTransition · screen.id)
  | .unsupported => [.stepSkipped rule.id]

namespace Rule

/-- The conditions before the first one that is false. -/
def passed (rule : Rule) (state : State) : List Condition :=
  rule.guards.takeWhile (·.holds state.values)

/-- The steps that are run: if no condition is false, those up to the first one that blocks, and that
one. -/
def executed (rule : Rule) (screen : Screen) (state : State) : List Step :=
  if ∀ guard ∈ rule.guards, guard.holds state.values then
    upTo (fun step => step.Blocks screen state) rule.steps
  else []

/-- The warnings of a rule that is reached. -/
def warnings (spec : Specification) (screen : Screen) (state : State) (rule : Rule) :
    List Diagnostic :=
  (rule.passed state).filterMap Condition.warning? ++
    (rule.executed screen state).flatMap (Step.warnings spec screen rule)

end Rule

namespace Specification

variable (spec : Specification) (screen : Screen) (state : State) (event : String)

/-- The rules that react to an event, up to the first one that runs a step that blocks, and that one.
-/
def reached : List Rule :=
  upTo (fun rule => ∃ step ∈ rule.executed screen state, step.Blocks screen state)
    (spec.matching screen event)

/-- The warnings of an event. -/
def warnings : List Diagnostic :=
  if spec.matching screen event = [] then [.noRules event screen.id]
  else (spec.reached screen state event).flatMap (Rule.warnings spec screen state)

/-- Something is passed over by a rule that is reached. -/
inductive FallsBack : Prop
  | comparator (rule : Rule) (reached : rule ∈ spec.reached screen state event) (guard : Condition)
      (passed : guard ∈ rule.passed state) (name : String)
      (unknown : name ∉ ["is_not_empty", "is_empty"])
      (comparator : guard.comparator = .other name unknown)
  | step (rule : Rule) (reached : rule ∈ spec.reached screen state event)
      (executed : .unsupported ∈ rule.executed screen state)
  | field (rule : Rule) (reached : rule ∈ spec.reached screen state event) (check : FieldCheck)
      (executed : .validate check ∈ rule.executed screen state) (key : String)
      (listed : key ∈ check.fields) (unbound : ¬ screen.HasField key)
  | transition (rule : Rule) (reached : rule ∈ spec.reached screen state event)
      (call : OperationCall) (executed : .start call ∈ rule.executed screen state) (success : String)
      (follows : call.successEvent = some success) (stays : ¬ spec.Leaves screen success)

end Specification

/-! ## What running adds -/

/-- The warnings of a log. -/
def warningsOf (log : List Diagnostic) : List Diagnostic := log.filter (·.level = .warn)

theorem warningsOf_append (log more : List Diagnostic) :
    warningsOf (log ++ more) = warningsOf log ++ warningsOf more :=
  List.filter_append log more

/-- What is run between two points adds warnings. -/
def Progress.Warns (before after : Progress) (added : List Diagnostic) : Prop :=
  warningsOf after.log = warningsOf before.log ++ added

namespace Progress

theorem Warns.refl (progress : Progress) : progress.Warns progress [] :=
  (List.append_nil _).symm

theorem Warns.trans {before middle after : Progress} {added more : List Diagnostic}
    (h : before.Warns middle added) (hmore : middle.Warns after more) :
    before.Warns after (added ++ more) := by
  unfold Warns at *
  rw [hmore, h, List.append_assoc]

theorem warns_note (progress : Progress) (diagnostics : List Diagnostic) :
    progress.Warns (progress.note diagnostics) (warningsOf diagnostics) :=
  warningsOf_append progress.log diagnostics

end Progress

/-! ## One rule -/

theorem Screen.hasField_iff {screen : Screen} {key : String} :
    screen.HasField key ↔ (screen.textField? key).isSome := by
  unfold HasField textField?
  rw [List.findSome?_isSome_iff]
  simp only [List.mem_filter, decide_eq_true_eq, and_assoc]

theorem Specification.leaves_iff {spec : Specification} {screen : Screen} {event : String} :
    spec.Leaves screen event ↔ (spec.target? event screen.id).isSome := by
  unfold Leaves target? transition?
  rw [Option.isSome_map, List.find?_isSome]
  simp only [decide_eq_true_eq]

/-- A condition that is false is no cause for a warning. -/
theorem warningsOf_guardReport (values : Bindings String) (guards : List Condition) :
    warningsOf (guardReport values guards) =
      (guards.takeWhile (·.holds values)).filterMap Condition.warning? := by
  induction guards with
  | nil => rfl
  | cons guard guards ih =>
    rw [guardReport, warningsOf_append]
    by_cases hholds : guard.holds values = true
    · rw [if_pos hholds, ih, List.takeWhile_cons, if_pos hholds, List.filterMap_cons]
      unfold Condition.report Condition.warning?
      cases guard.comparator <;> rfl
    · rw [if_neg hholds, List.takeWhile_cons, if_neg hholds]
      unfold Condition.holds at hholds
      unfold Condition.report
      cases hcomparator : guard.comparator with
      | isNotEmpty => rfl
      | isEmpty => rfl
      | other name unknown => simp [hcomparator] at hholds

section Steps

variable (spec : Specification) (screen : Screen) (rule : Rule)

theorem Progress.warns_checkField (progress : Progress) (key : String) :
    progress.Warns (progress.checkField screen key)
      (([key].filter fun key => ¬ screen.HasField key).map (.fieldSkipped · screen.id)) := by
  unfold checkField
  cases hfield : screen.textField? key with
  | none =>
    have hunbound : ¬ screen.HasField key := by simp [Screen.hasField_iff, hfield]
    rw [List.filter_cons_of_pos (by simpa using hunbound)]
    exact progress.warns_note _
  | some field =>
    have hbound : screen.HasField key := by simp [Screen.hasField_iff, hfield]
    rw [List.filter_cons_of_neg (by simpa using hbound)]
    exact Warns.refl progress

theorem Progress.warns_foldl_checkField (keys : List String) (progress : Progress) :
    progress.Warns (keys.foldl (checkField screen) progress)
      ((keys.filter fun key => ¬ screen.HasField key).map (.fieldSkipped · screen.id)) := by
  induction keys generalizing progress with
  | nil => exact .refl progress
  | cons key keys ih =>
    have hall := (progress.warns_checkField screen key).trans (ih (progress.checkField screen key))
    rwa [← List.map_append, ← List.filter_append] at hall

/-- A success event that is followed leads somewhere, or there is a warning. -/
theorem warningsOf_navigationReport (event : String) :
    warningsOf [spec.navigationReport event screen.id] =
      ([event].filter fun event => ¬ spec.Leaves screen event).map (.noTransition · screen.id) := by
  unfold Specification.navigationReport
  cases htarget : spec.target? event screen.id with
  | none =>
    have hstays : ¬ spec.Leaves screen event := by simp [Specification.leaves_iff, htarget]
    rw [List.filter_cons_of_pos (by simpa using hstays)]
    rfl
  | some target =>
    have hleaves : spec.Leaves screen event := by simp [Specification.leaves_iff, htarget]
    rw [List.filter_cons_of_neg (by simpa using hleaves)]
    rfl

theorem Progress.warns_startOperation (progress : Progress) (call : OperationCall) :
    progress.Warns (progress.startOperation spec screen rule call)
      ((call.successEvent.toList.filter fun event => ¬ spec.Leaves screen event).map
        (.noTransition · screen.id)) := by
  have hstarted : warningsOf [.operationStarted rule.id call.operation] = [] := rfl
  unfold startOperation Warns
  cases call.successEvent with
  | none =>
    show warningsOf (progress.log ++ [.operationStarted rule.id call.operation]) = _
    rw [warningsOf_append, hstarted]
    rfl
  | some event =>
    show warningsOf (progress.log ++ [.operationStarted rule.id call.operation] ++
      [spec.navigationReport event screen.id]) = _
    rw [warningsOf_append, warningsOf_append, hstarted, List.append_nil,
      warningsOf_navigationReport]
    rfl

/-- One step of a rule. -/
theorem warns_run (progress : Progress) (step : Step) :
    progress.Warns (step.run spec screen rule progress) (step.warnings spec screen rule) := by
  cases step with
  | validate check => exact Progress.warns_foldl_checkField screen check.fields progress
  | start call => exact progress.warns_startOperation spec screen rule call
  | unsupported => exact progress.warns_note [.stepSkipped rule.id]

variable {state : State}

/-- The steps of a rule, up to one that ends the chain. -/
theorem warns_runSteps (steps : List Step) {progress : Progress}
    (h : progress.state.values = state.values) :
    progress.Warns (runSteps spec screen rule progress steps).1
      ((upTo (fun step => step.Blocks screen state) steps).flatMap
        (Step.warnings spec screen rule)) := by
  induction steps generalizing progress with
  | nil => exact .refl progress
  | cons step steps ih =>
    have hrun := warns_run spec screen rule progress step
    have hvalues := (Progress.runs_run spec screen rule progress step).values.trans h
    rw [runSteps, Step.halts_congr screen h, upTo]
    by_cases hblocks : step.Blocks screen state
    · rw [if_pos (Step.halts_iff_blocks.2 hblocks), if_pos (decide_eq_true hblocks),
        List.flatMap_singleton]
      exact hrun
    · rw [if_neg (mt Step.halts_iff_blocks.1 hblocks), if_neg (by simpa using hblocks),
        List.flatMap_cons]
      exact hrun.trans (ih hvalues)

end Steps

/-! ## All rules -/

section Rules

variable (spec : Specification) (screen : Screen) {state : State}

/-- The entry that stops a list is one of those up to it. -/
theorem exists_mem_upTo_iff {α : Type} {p : α → Prop} [DecidablePred p] {xs : List α} :
    (∃ x ∈ upTo (fun x => p x) xs, p x) ↔ ∃ x ∈ xs, p x := by
  induction xs with
  | nil => rfl
  | cons x xs ih =>
    rw [upTo]
    by_cases hx : p x
    · simp [hx]
    · simp [hx, ih]

/-- A rule without a false condition ends the chain exactly if it runs a step that blocks. -/
theorem halted_runSteps_iff (rule : Rule) {progress : Progress}
    (h : progress.state.values = state.values) :
    (runSteps spec screen rule progress rule.steps).2 = true ↔
      ∃ step ∈ upTo (fun step => step.Blocks screen state) rule.steps,
        step.Blocks screen state := by
  rw [(runSteps_runs spec screen rule rule.steps h).2, List.any_map, List.any_eq_true,
    exists_mem_upTo_iff]
  exact exists_congr fun step => and_congr_right' Step.halts_iff_blocks

/-- A rule is judged, and its steps are run if no condition is false; all rules after it are run if
none of its steps blocks. -/
theorem warns_runRules (event : String) (rules : List Rule) {progress : Progress}
    (h : progress.state.values = state.values) :
    progress.Warns (runRules spec screen event progress rules).1
      ((upTo (fun rule => ∃ step ∈ rule.executed screen state, step.Blocks screen state)
        rules).flatMap (Rule.warnings spec screen state)) := by
  induction rules generalizing progress with
  | nil => exact .refl progress
  | cons rule rules ih =>
    have hjudged : progress.Warns (progress.note (guardReport state.values rule.guards))
        ((rule.passed state).filterMap Condition.warning?) := by
      rw [Rule.passed, ← warningsOf_guardReport]
      exact progress.warns_note _
    have hvalues : (progress.note (guardReport state.values rule.guards)).state.values =
        state.values := h
    rw [runRules, h, upTo]
    by_cases hguards : guardsHold rule.guards state.values = true
    · have hexecuted : rule.executed screen state =
          upTo (fun step => step.Blocks screen state) rule.steps :=
        if_pos (List.all_eq_true.1 hguards)
      have hsteps := hjudged.trans (warns_runSteps spec screen rule rule.steps hvalues)
      rw [← hexecuted] at hsteps
      have hafter := (runSteps_runs spec screen rule rule.steps hvalues).1.values.trans hvalues
      have hhalted := halted_runSteps_iff spec screen rule hvalues
      rw [← hexecuted] at hhalted
      rw [if_pos hguards]
      generalize runSteps spec screen rule _ rule.steps = result at *
      obtain ⟨after, _ | _⟩ := result
      · -- the rule does not end the chain
        have hgoes := mt hhalted.2 Bool.false_ne_true
        rw [if_neg (by simpa using hgoes), List.flatMap_cons]
        exact hsteps.trans (ih hafter)
      · rw [if_pos (by simpa using hhalted.1 rfl), List.flatMap_singleton]
        have hended : after.Warns (after.note [.chainHalted rule.id event]) [] := after.warns_note _
        have hall := hsteps.trans hended
        rwa [List.append_nil] at hall
    · have hexecuted : rule.executed screen state = [] :=
        if_neg (mt List.all_eq_true.2 hguards)
      have hwarnings : rule.warnings spec screen state =
          (rule.passed state).filterMap Condition.warning? := by
        rw [Rule.warnings, hexecuted, List.flatMap_nil, List.append_nil]
      have hskipped : (progress.note (guardReport state.values rule.guards)).Warns _ [] :=
        Progress.warns_note _ [.guardFailed rule.id]
      have hall := (hjudged.trans hskipped).trans (ih hvalues)
      rw [List.append_nil] at hall
      rw [if_neg hguards, hexecuted, if_neg (by simp), List.flatMap_cons, hwarnings]
      exact hall

end Rules

/-! ## Events -/

namespace Specification

variable {spec : Specification} {screen : Screen} {state : State}

/-- A step has warnings exactly if it is of no known type, or a check or an operation that passes
over something. -/
theorem warnings_step_ne_nil_iff {rule : Rule} {step : Step} :
    step.warnings spec screen rule ≠ [] ↔
      step = .unsupported ∨
        (∃ check, step = .validate check ∧ ∃ key ∈ check.fields, ¬ screen.HasField key) ∨
          ∃ call success, step = .start call ∧ call.successEvent = some success ∧
            ¬ spec.Leaves screen success := by
  cases step with
  | validate check => simp [Step.warnings]
  | start call => simp [Step.warnings]
  | unsupported => simp [Step.warnings]

/-- Something is passed over exactly if some rule that is reached has warnings. -/
theorem fallsBack_iff {event : String} :
    spec.FallsBack screen state event ↔
      ∃ rule ∈ spec.reached screen state event, rule.warnings spec screen state ≠ [] := by
  have hrule : ∀ rule : Rule, rule.warnings spec screen state ≠ [] ↔
      (∃ guard ∈ rule.passed state, guard.warning? ≠ none) ∨
        ∃ step ∈ rule.executed screen state, step.warnings spec screen rule ≠ [] := by
    intro rule
    rw [Rule.warnings, ne_eq, List.append_eq_nil_iff, List.filterMap_eq_nil_iff,
      List.flatMap_eq_nil_iff, not_and_or]
    simp only [not_forall, exists_prop, ne_eq]
  simp only [hrule, warnings_step_ne_nil_iff]
  constructor
  · rintro (⟨rule, hreached, guard, hpassed, name, unknown, hcomparator⟩ |
      ⟨rule, hreached, hexecuted⟩ | ⟨rule, hreached, check, hexecuted, key, hlisted, hunbound⟩ |
      ⟨rule, hreached, call, hexecuted, success, hfollows, hstays⟩)
    · refine ⟨rule, hreached, .inl ⟨guard, hpassed, ?_⟩⟩
      simp [Condition.warning?, hcomparator]
    · exact ⟨rule, hreached, .inr ⟨_, hexecuted, .inl rfl⟩⟩
    · exact ⟨rule, hreached, .inr ⟨_, hexecuted, .inr (.inl ⟨check, rfl, key, hlisted, hunbound⟩)⟩⟩
    · exact ⟨rule, hreached, .inr ⟨_, hexecuted, .inr (.inr ⟨call, success, rfl, hfollows, hstays⟩)⟩⟩
  · rintro ⟨rule, hreached, ⟨guard, hpassed, hwarning⟩ | ⟨step, hexecuted, hstep⟩⟩
    · cases hcomparator : guard.comparator with
      | isNotEmpty => simp [Condition.warning?, hcomparator] at hwarning
      | isEmpty => simp [Condition.warning?, hcomparator] at hwarning
      | other name unknown => exact .comparator rule hreached guard hpassed name unknown hcomparator
    · rcases hstep with rfl | ⟨check, rfl, key, hlisted, hunbound⟩ |
        ⟨call, success, rfl, hfollows, hstays⟩
      · exact .step rule hreached hexecuted
      · exact .field rule hreached check hexecuted key hlisted hunbound
      · exact .transition rule hreached call hexecuted success hfollows hstays

/-- There are no warnings exactly if some rule reacts to the event and nothing is passed over. -/
theorem warnings_eq_nil_iff (event : String) :
    spec.warnings screen state event = [] ↔
      spec.matching screen event ≠ [] ∧ ¬ spec.FallsBack screen state event := by
  rw [fallsBack_iff, warnings]
  by_cases hmatching : spec.matching screen event = []
  · simp [hmatching]
  · rw [if_neg hmatching, List.flatMap_eq_nil_iff]
    simp [hmatching]

/-- The warnings of an event are those that its start tells. -/
theorem warns_handleEvent (event : String) (h : spec.screen state.activeScreen = .ok screen) :
    ∃ outcome, spec.handleEvent state event = .ok outcome ∧
      warningsOf outcome.log = spec.warnings screen state event := by
  unfold handleEvent warnings
  rw [h]
  show ∃ outcome, (if (spec.rulesFor screen.id event).isEmpty then _ else _) = _ ∧ _
  rw [rulesFor_eq]
  unfold reached
  cases hrules : spec.matching screen event with
  | nil => exact ⟨_, rfl, rfl⟩
  | cons rule rules =>
    have hwarns := @warns_runRules spec screen state event (rule :: rules) (.start state) rfl
    exact ⟨_, rfl, hwarns⟩

end Specification

/-- **Warnings.** An event on a screen that is there has an outcome, and its warnings are told by the
state in which it starts: each thing that is passed over is reported once, in order. There are none
exactly if some rule reacts to the event and nothing is passed over. -/
theorem handleEvent_warns {spec : Specification} {state : State} {screen : Screen} (event : String)
    (h : spec.screen state.activeScreen = .ok screen) :
    ∃ outcome, spec.handleEvent state event = .ok outcome ∧
      outcome.log.filter (·.level = .warn) = spec.warnings screen state event ∧
      (outcome.log.filter (·.level = .warn) = [] ↔
        spec.matching screen event ≠ [] ∧ ¬ spec.FallsBack screen state event) := by
  obtain ⟨outcome, houtcome, hwarnings⟩ := Specification.warns_handleEvent event h
  have hlog : outcome.log.filter (·.level = .warn) = spec.warnings screen state event := hwarnings
  exact ⟨outcome, houtcome, hlog, by rw [hlog, Specification.warnings_eq_nil_iff]⟩

/-- A form made for a later version: what is not understood, or leads nowhere, is passed over. -/
def Specification.newerForm : Specification :=
  .unindexed none "form"
    [⟨"form", none, none, .standard, [
      ⟨"name", .textField ⟨none, none, none, .text, true, ⟨none⟩⟩⟩,
      ⟨"save", .button ⟨"Save", none, none, none⟩⟩]⟩]
    [⟨"older", .global, "save.click",
        [⟨"age", .other "greater_than" (by decide), .null⟩, ⟨"name", .isNotEmpty, .null⟩,
          ⟨"city", .other "starts_with" (by decide), .null⟩],
        [.unsupported]⟩,
      ⟨"check", .screen "form", "save.click", [],
        [.unsupported, .start ⟨"store", .empty, some "stored", none⟩,
          .validate ⟨["nick", "name", "nick"], none, true⟩, .unsupported]⟩,
      ⟨"late", .global, "save.click", [], [.unsupported]⟩]
    [⟨"t", "stored", "done", "form", false⟩]

/-- The condition after the false one, the step after the check and the last rule are not reached. -/
theorem handleEvent_warns_newerForm :
    ∃ screen outcome, Specification.newerForm.screen "form" = .ok screen ∧
      Specification.newerForm.handleEvent (.initial "form") "save.click" = .ok outcome ∧
      outcome.log.filter (·.level = .warn) =
        Specification.newerForm.warnings screen (.initial "form") "save.click" ∧
      Specification.newerForm.FallsBack screen (.initial "form") "save.click" ∧
      outcome.log.filter (·.level = .warn) =
        [.unknownComparator "greater_than" "age", .stepSkipped "check", .noTransition "stored" "form",
          .fieldSkipped "nick" "form", .fieldSkipped "nick" "form"] := by
  have hscreen : Specification.newerForm.screen (State.initial "form").activeScreen = .ok _ := rfl
  obtain ⟨outcome, houtcome, hlog, hnone⟩ := handleEvent_warns "save.click" hscreen
  have hwarnings : outcome.log.filter (·.level = .warn) =
      [.unknownComparator "greater_than" "age", .stepSkipped "check", .noTransition "stored" "form",
        .fieldSkipped "nick" "form", .fieldSkipped "nick" "form"] := by
    rw [hlog]
    decide +kernel
  refine ⟨_, outcome, hscreen, houtcome, hlog, ?_, hwarnings⟩
  rw [hwarnings] at hnone
  refine Classical.byContradiction fun hfalls => ?_
  exact absurd (hnone.2 ⟨by decide, hfalls⟩) (List.cons_ne_nil _ _)

end ScreenFlow
