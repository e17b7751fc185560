import ScreenFlow.Proofs.Checks
import ScreenFlow.Proofs.Event.ClosedForm
import ScreenFlow.Session

/-!
# Runs of a session

A host drives a session by three kinds of move: it hands a request over, reports an edit of a
component, or triggers one. `Session.run` takes any number of moves in any order; a move that fails
leaves the state that its turn leaves. A property that every move keeps is kept by every run
(`run_induction`).

Most hosts only hand requests over. `Session.serve` is the run of a list of requests, and a property
that every request keeps is kept by it (`serve_induction`).
-/

namespace ScreenFlow

/-- One thing that a host does to a session. -/
inductive Move
  | handle (request : Request)
  | change (component : Component) (value : String)
  | trigger (component : Component)
  deriving DecidableEq

/-- The screen that a request names. -/
def Request.screenId? : Request → Option String
  | view => none
  | inputChange screenId _ _ | buttonClick screenId _ => some screenId

namespace Session

/-- A session starts with nothing stored and no errors. -/
theorem eq_of_start {spec : Specification} {assets : Assets} {initial : Option String}
    {session : Session} (h : start spec assets initial = .ok session) :
    session = ⟨spec, assets, .initial (initial.getD spec.initialScreen)⟩ := by
  obtain ⟨_, _, h⟩ := bind_eq_ok_iff.1 h
  exact (pure_eq_ok_iff.1 h).symm

/-- The state that a move leaves. -/
def stateAfter (session : Session) : Move → State
  | .handle request => (session.handle request).state
  | .change component value => (session.change component value).state
  | .trigger component => (session.trigger component).state

/-- The session after a move. -/
def move (session : Session) (move : Move) : Session := session.withState (session.stateAfter move)

/-- The session after a run of moves. -/
def run (session : Session) (moves : List Move) : Session := moves.foldl Session.move session

theorem specification_run (session : Session) (moves : List Move) :
    (session.run moves).specification = session.specification := by
  induction moves generalizing session with
  | nil => rfl
  | cons first moves ih => exact ih (session.move first)

theorem run_induction {motive : Session → Prop}
    (step : ∀ session move, motive session → motive (session.move move)) {session : Session}
    (h : motive session) (moves : List Move) : motive (session.run moves) := by
  induction moves generalizing session with
  | nil => exact h
  | cons first moves ih => exact ih (step session first h)

/-! ## Runs of requests -/

/-- The session after a request. -/
def after (session : Session) (request : Request) : Session := session.move (.handle request)

/-- The session after requests, one after another. -/
def serve (session : Session) (requests : List Request) : Session :=
  session.run (requests.map .handle)

/-- The turns of requests, one after another. -/
def turns (session : Session) : List Request → List (Turn Snapshot)
  | [] => []
  | request :: requests => session.handle request :: (session.after request).turns requests

@[simp] theorem serve_cons (session : Session) (request : Request) (requests : List Request) :
    session.serve (request :: requests) = (session.after request).serve requests := rfl

theorem serve_append (session : Session) (requests later : List Request) :
    session.serve (requests ++ later) = (session.serve requests).serve later := by
  unfold serve run
  rw [List.map_append, List.foldl_append]

@[simp] theorem specification_serve (session : Session) (requests : List Request) :
    (session.serve requests).specification = session.specification :=
  session.specification_run _

theorem serve_induction {motive : Session → Prop}
    (step : ∀ session request, motive session → motive (session.after request))
    {session : Session} (h : motive session) (requests : List Request) :
    motive (session.serve requests) := by
  induction requests generalizing session with
  | nil => exact h
  | cons first requests ih => exact ih (step session first h)

/-! ## What a turn leaves -/

theorem state_handle (session : Session) (request : Request) :
    (session.handle request).state = (session.apply request).state := by
  unfold handle
  dsimp only
  split <;> rfl

theorem dispatched_handle (session : Session) (request : Request) :
    (session.handle request).dispatched = (session.apply request).dispatched := by
  unfold handle
  dsimp only
  split <;> rfl

@[simp] theorem activeScreen_change (session : Session) (component : Component) (value : String) :
    (session.change component value).state.activeScreen = session.state.activeScreen := by
  unfold change
  split <;> simp [State.setValue]

theorem state_after (session : Session) (request : Request) :
    (session.after request).state = (session.apply request).state :=
  session.state_handle request

/-- What triggering a component comes to: its event on the active screen, if that is there. -/
theorem trigger_cases (session : Session) (component : Component) :
    (∃ missing, session.specification.screen session.state.activeScreen = .error missing ∧
        session.trigger component = ⟨session.state, .error missing, [], []⟩) ∨
      ∃ screen outcome log,
        session.specification.screen session.state.activeScreen = .ok screen ∧
        session.specification.handleEvent session.state (clickOf component) = .ok outcome ∧
        session.specification.Settles screen session.state (clickOf component) outcome ∧
        session.trigger component = ⟨outcome.state, .ok (), outcome.dispatched, log⟩ := by
  unfold trigger
  cases hscreen : session.specification.screen session.state.activeScreen with
  | error missing =>
    have hevent : session.specification.handleEvent session.state (clickOf component) =
        .error missing := by
      unfold Specification.handleEvent
      rw [hscreen]
      rfl
    rw [hevent]
    exact Or.inl ⟨missing, rfl, rfl⟩
  | ok screen =>
    obtain ⟨outcome, houtcome, hsettles⟩ :=
      session.specification.exists_settles (clickOf component) hscreen
    rw [houtcome]
    exact Or.inr ⟨screen, outcome, _, rfl, rfl, hsettles, rfl⟩

/-- Triggering a component writes no value. -/
@[simp] theorem values_trigger (session : Session) (component : Component) :
    (session.trigger component).state.values = session.state.values := by
  rcases session.trigger_cases component with
    ⟨missing, _, hturn⟩ | ⟨screen, outcome, log, _, _, hsettles, hturn⟩
  · rw [hturn]
  · rw [hturn]
    exact hsettles.values

/-! ## What a request does -/

/-- The component of an id on a screen that is there and active. -/
def Finds (session : Session) (screenId componentId : String) (component : Component) : Prop :=
  ∃ screen, session.specification.screen screenId = .ok screen ∧
    screen.id = session.state.activeScreen ∧ screen.component? componentId = some component

/-- The component that a request acts on. -/
def Reaches (session : Session) (component : Component) : Request → Prop
  | .view => False
  | .inputChange screenId fieldId _ => session.Finds screenId fieldId component
  | .buttonClick screenId buttonId =>
    session.Finds screenId buttonId component ∧ component.isButton = true

/-- All that a request can come to: it names no screen that is there, it acts on nothing, or it
edits or triggers the component that it reaches. -/
inductive Acts (session : Session) : Request → Turn Unit → Prop
  | missing {request : Request} {screenId : String} {missing : ScreenNotFound}
      (names : request.screenId? = some screenId)
      (absent : session.specification.screen screenId = .error missing) :
      Acts session request ⟨session.state, .error missing, [], []⟩
  | idle {request : Request} (log : List Diagnostic)
      (known : ∀ screenId, request.screenId? = some screenId →
        ∃ screen, session.specification.screen screenId = .ok screen)
      (aimless : ∀ component, ¬ session.Reaches component request) :
      Acts session request (session.idle log)
  | change {screenId fieldId value : String} {component : Component}
      (found : session.Finds screenId fieldId component) :
      Acts session (.inputChange screenId fieldId value) (session.change component value)
  | trigger {screenId buttonId : String} {component : Component}
      (found : session.Finds screenId buttonId component) (button : component.isButton = true) :
      Acts session (.buttonClick screenId buttonId) (session.trigger component)

/-- What is done to the component that a request names, if it is there. -/
theorem onTarget_cases (session : Session) (screenId componentId : String)
    (act : Component → Turn Unit) :
    (∃ missing, session.specification.screen screenId = .error missing ∧
        session.onTarget screenId componentId act = ⟨session.state, .error missing, [], []⟩) ∨
      (∃ screen log, session.specification.screen screenId = .ok screen ∧
        (∀ component, ¬ session.Finds screenId componentId component) ∧
        session.onTarget screenId componentId act = session.idle log) ∨
      ∃ component, session.Finds screenId componentId component ∧
        session.onTarget screenId componentId act = act component := by
  unfold onTarget target Finds
  cases hscreen : session.specification.screen screenId with
  | error missing => exact Or.inl ⟨missing, rfl, rfl⟩
  | ok screen =>
    refine Or.inr ?_
    by_cases hactive : screen.id = session.state.activeScreen
    · cases hcomponent : screen.component? componentId with
      | none =>
        refine Or.inl ⟨screen, [.componentMissing screenId componentId], rfl, ?_, ?_⟩
        · rintro component ⟨other, hother, _, hfound⟩
          obtain rfl := Except.ok.inj hother
          rw [hcomponent] at hfound
          cases hfound
        · simp [bind, Except.bind, hactive, hcomponent, pure, Except.pure]
      | some component =>
        refine Or.inr ⟨component, ⟨screen, rfl, hactive, hcomponent⟩, ?_⟩
        simp [bind, Except.bind, hactive, hcomponent, pure, Except.pure]
    · refine Or.inl ⟨screen, [.staleRequest screenId session.state.activeScreen], rfl, ?_, ?_⟩
      · rintro component ⟨other, hother, hsame, _⟩
        obtain rfl := Except.ok.inj hother
        exact hactive hsame
      · simp [bind, Except.bind, hactive, pure, Except.pure]

theorem finds_unique {session : Session} {screenId componentId : String}
    {component other : Component} (h : session.Finds screenId componentId component)
    (hother : session.Finds screenId componentId other) : component = other := by
  obtain ⟨screen, hscreen, _, hfound⟩ := h
  obtain ⟨same, hsame, _, hfound'⟩ := hother
  rw [hscreen] at hsame
  obtain rfl := Except.ok.inj hsame
  exact Option.some.inj (hfound.symm.trans hfound')

theorem acts_apply (session : Session) (request : Request) :
    session.Acts request (session.apply request) := by
  cases request with
  | view => exact .idle [] (fun _ h => by cases h) fun _ h => h
  | inputChange screenId fieldId value =>
    show session.Acts _ (session.onTarget screenId fieldId _)
    rcases session.onTarget_cases screenId fieldId fun component =>
        session.change component value with
      ⟨missing, habsent, hturn⟩ | ⟨screen, log, hscreen, hnone, hturn⟩ | ⟨component, hfound, hturn⟩
    · rw [hturn]
      exact .missing rfl habsent
    · rw [hturn]
      exact .idle log (fun _ h => ⟨screen, Option.some.inj h ▸ hscreen⟩) hnone
    · rw [hturn]
      exact .change hfound
  | buttonClick screenId buttonId =>
    show session.Acts _ (session.onTarget screenId buttonId _)
    rcases session.onTarget_cases screenId buttonId fun component =>
        if component.isButton then session.trigger component
        else session.idle [.clickIgnored buttonId] with
      ⟨missing, habsent, hturn⟩ | ⟨screen, log, hscreen, hnone, hturn⟩ | ⟨component, hfound, hturn⟩
    · rw [hturn]
      exact .missing rfl habsent
    · rw [hturn]
      exact .idle log (fun _ h => ⟨screen, Option.some.inj h ▸ hscreen⟩)
        fun component h => hnone component h.1
    · rw [hturn]
      cases hbutton : component.isButton with
      | true => exact .trigger hfound hbutton
      | false =>
        refine .idle _ (fun _ h => ?_) fun other h => ?_
        · obtain ⟨screen, hscreen, _⟩ := hfound
          exact ⟨screen, Option.some.inj h ▸ hscreen⟩
        · obtain ⟨hother, hpressed⟩ := h
          rw [finds_unique hother hfound, hbutton] at hpressed
          exact Bool.false_ne_true hpressed

end Session

end ScreenFlow
