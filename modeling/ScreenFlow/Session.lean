import ScreenFlow.Event
import ScreenFlow.Session.Request
import ScreenFlow.Snapshot

/-!
# Sessions

A session is one user's way through a specification. A field is edited, an action is triggered, or a
host passes a request on, which names screens and components by their ids.
-/

namespace ScreenFlow

/-- One user's way through a specification. -/
structure Session where
  specification : Specification
  assets : Assets
  state : State

/-- What came of one thing done to a session. The state that it left is kept also when it failed. -/
structure Turn (α : Type) where
  state : State
  answer : Except ScreenNotFound α
  dispatched : List Operation
  log : List Diagnostic

/-- What a session is busy with. Edits and actions are parts of a request. -/
inductive Activity
  | request
  | edit (component : String)
  | action (screen component : String)
  deriving DecidableEq

namespace Session

/-- Start on a screen, by default the specification's; it must be there. -/
def start (specification : Specification) (assets : Assets) (initial : Option String) :
    Except ScreenNotFound Session := do
  let screen := initial.getD specification.initialScreen
  let _ ← specification.screen screen
  return ⟨specification, assets, .initial screen⟩

/-- What is reported of a session that starts. -/
def startReport (session : Session) : List Diagnostic :=
  [.sessionStarted session.state.activeScreen]

/-- The session in another state. -/
def withState (session : Session) (state : State) : Session := { session with state }

/-- The active screen, which must be there. -/
def activeScreen (session : Session) : Except ScreenNotFound Screen :=
  session.specification.screen session.state.activeScreen

/-! ## Edits and actions -/

/-- Keep what was typed into a component, and check that field alone. -/
def change (session : Session) (component : Component) (value : String) : Turn Unit :=
  match component.textField? with
  | none => ⟨session.state, .ok (), [], [.changeIgnored]⟩
  | some field =>
    let key := component.bindingKey
    ⟨(session.state.setValue key value).setError key (field.error? value), .ok (), [], []⟩

/-- The event of clicking on a component. -/
def clickOf (component : Component) : String := component.id ++ ".click"

/-- Run what a click on a component sets off. -/
def trigger (session : Session) (component : Component) : Turn Unit :=
  match session.specification.handleEvent session.state (clickOf component) with
  | .error missing => ⟨session.state, .error missing, [], []⟩
  | .ok outcome =>
    let moved :=
      if outcome.navigated then [Diagnostic.screenChanged outcome.state.activeScreen] else []
    ⟨outcome.state, .ok (), outcome.dispatched, outcome.log ++ moved⟩

/-! ## Snapshots -/

/-- The active screen as it is shown. -/
def snapshot (session : Session) : Except ScreenNotFound Snapshot := do
  return .ofScreen (← session.activeScreen) session.state session.assets

/-- What is reported of showing the active screen. -/
def snapshotReport (session : Session) : List Diagnostic :=
  match session.activeScreen with
  | .ok screen => Snapshot.report screen session.assets
  | .error _ => []

/-! ## Requests -/

/-- The component that a request is for, if the request counts, and what is reported. -/
def target (session : Session) (screenId componentId : String) :
    Except ScreenNotFound (Option Component × List Diagnostic) := do
  let screen ← session.specification.screen screenId
  if screen.id ≠ session.state.activeScreen then
    return (none, [.staleRequest screenId session.state.activeScreen])
  else
    match screen.component? componentId with
    | some component => return (some component, [])
    | none => return (none, [.componentMissing screenId componentId])

/-- A turn in which nothing is done. -/
def idle (session : Session) (log : List Diagnostic) : Turn Unit := ⟨session.state, .ok (), [], log⟩

/-- Do to the component that a request is for what the request asks. -/
def onTarget (session : Session) (screenId componentId : String) (act : Component → Turn Unit) :
    Turn Unit :=
  match session.target screenId componentId with
  | .error missing => ⟨session.state, .error missing, [], []⟩
  | .ok (none, log) => session.idle log
  | .ok (some component, _) => act component

/-- Do what a request asks. -/
def apply (session : Session) : Request → Turn Unit
  | .view => session.idle []
  | .inputChange screenId fieldId value =>
    session.onTarget screenId fieldId fun component => session.change component value
  | .buttonClick screenId buttonId =>
    session.onTarget screenId buttonId fun component =>
      if component.isButton then session.trigger component
      else session.idle [.clickIgnored buttonId]

/-- Do what a request asks, and show the active screen. -/
def handle (session : Session) (request : Request) : Turn Snapshot :=
  let turn := session.apply request
  match turn.answer with
  | .error missing => ⟨turn.state, .error missing, turn.dispatched, turn.log⟩
  | .ok () =>
    let after := session.withState turn.state
    ⟨turn.state, after.snapshot, turn.dispatched, turn.log ++ after.snapshotReport⟩

/-! ## Activities -/

/-- What the session is busy with while it does what a request asks. -/
def activities (session : Session) : Request → List Activity
  | .view => [.request]
  | .inputChange screenId fieldId _ =>
    match session.target screenId fieldId with
    | .ok (some component, _) => [.request, .edit component.id]
    | _ => [.request]
  | .buttonClick screenId buttonId =>
    match session.target screenId buttonId with
    | .ok (some component, _) =>
      if component.isButton then [.request, .action session.state.activeScreen component.id]
      else [.request]
    | _ => [.request]

/-- What is reported of a request, each time with what the session is busy with. -/
def handleReport (session : Session) (request : Request) : List (Diagnostic × List Activity) :=
  let turn := session.apply request
  let applied := turn.log.map (·, session.activities request)
  match turn.answer with
  | .error _ => applied
  | .ok () =>
    applied ++ (session.withState turn.state).snapshotReport.map (·, [.request])

end Session

end ScreenFlow
