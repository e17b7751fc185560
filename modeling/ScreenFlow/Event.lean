import ScreenFlow.Operation
import ScreenFlow.Rule.Guard
import ScreenFlow.Specification
import ScreenFlow.Validation

/-!
# Events

An event on the active screen runs the rules that react to it, in order. A rule whose guards hold runs
its steps: fields are checked, operations are asked for, and an operation's success event is followed
from the screen on which the event happened. A check that fails and stops on errors ends the rule and
all rules after it.
-/

namespace ScreenFlow

/-- What the steps run so far have come to. -/
structure Progress where
  state : State
  navigated : Bool
  dispatched : List Operation
  log : List Diagnostic

/-- What handling an event has come to. -/
structure Outcome where
  state : State
  matchedRules : Nat
  navigated : Bool
  halted : Bool
  dispatched : List Operation
  log : List Diagnostic

namespace Progress

/-- Nothing has been run yet. -/
def start (state : State) : Progress := ⟨state, false, [], []⟩

/-- Report something. -/
def note (progress : Progress) (diagnostics : List Diagnostic) : Progress :=
  { progress with log := progress.log ++ diagnostics }

/-- Check the field bound to a key, and keep or clear its error. -/
def checkField (screen : Screen) (progress : Progress) (key : String) : Progress :=
  match screen.textField? key with
  | none => progress.note [.fieldSkipped key screen.id]
  | some field =>
    { progress with
      state := progress.state.setError key (field.error? (progress.state.value key)) }

/-- Ask for an operation and follow its success event. -/
def startOperation (spec : Specification) (screen : Screen) (rule : Rule) (progress : Progress)
    (call : OperationCall) : Progress :=
  let started : Progress :=
    { progress with
      dispatched := progress.dispatched ++ [.ofCall screen.id rule.id call]
      log := progress.log ++ [.operationStarted rule.id call.operation] }
  match call.successEvent with
  | none => started
  | some event =>
    let (moved, state) := spec.navigate started.state event screen.id
    { started with
      state := state
      navigated := started.navigated || moved
      log := started.log ++ [spec.navigationReport event screen.id] }

end Progress

/-- Whether a value that a check is asked for fails. -/
def FieldCheck.fails (check : FieldCheck) (screen : Screen) (state : State) : Bool :=
  check.fields.any fun key =>
    (screen.textField? key).any fun field => (field.error? (state.value key)).isSome

/-- Whether a step ends the chain of rules. -/
def Step.halts (step : Step) (screen : Screen) (state : State) : Bool :=
  match step with
  | .validate check => check.stopOnError && check.fails screen state
  | .start _ | .unsupported => false

/-- Run one step. -/
def Step.run (spec : Specification) (screen : Screen) (rule : Rule) (progress : Progress) :
    Step → Progress
  | .validate check => check.fields.foldl (Progress.checkField screen) progress
  | .start call => progress.startOperation spec screen rule call
  | .unsupported => progress.note [.stepSkipped rule.id]

/-- Run steps up to one that ends the chain; whether there was one. -/
def runSteps (spec : Specification) (screen : Screen) (rule : Rule) (progress : Progress) :
    List Step → Progress × Bool
  | [] => (progress, false)
  | step :: steps =>
    let after := step.run spec screen rule progress
    if step.halts screen progress.state then (after, true)
    else runSteps spec screen rule after steps

/-- Run rules up to one that ends the chain; whether there was one. -/
def runRules (spec : Specification) (screen : Screen) (event : String) (progress : Progress) :
    List Rule → Progress × Bool
  | [] => (progress, false)
  | rule :: rules =>
    let judged := progress.note (guardReport progress.state.values rule.guards)
    if guardsHold rule.guards progress.state.values then
      match runSteps spec screen rule judged rule.steps with
      | (after, true) => (after.note [.chainHalted rule.id event], true)
      | (after, false) => runRules spec screen event after rules
    else runRules spec screen event (judged.note [.guardFailed rule.id]) rules

/-- Handle an event on the active screen. -/
def Specification.handleEvent (spec : Specification) (state : State) (event : String) :
    Except ScreenNotFound Outcome := do
  let screen ← spec.screen state.activeScreen
  let rules := spec.rulesFor screen.id event
  if rules.isEmpty then
    return ⟨state, 0, false, false, [], [.noRules event screen.id]⟩
  else
    let (progress, halted) := runRules spec screen event (.start state) rules
    return ⟨progress.state, rules.length, progress.navigated, halted, progress.dispatched,
      progress.log⟩

end ScreenFlow
