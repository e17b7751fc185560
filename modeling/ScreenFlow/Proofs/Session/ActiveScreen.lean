import ScreenFlow.Proofs.Event.ClosedForm
import ScreenFlow.Proofs.Resolution
import ScreenFlow.Proofs.Session.Run

/-!
# The active screen is there

A specification is `Specification.Connected` if it looks screens up by their ids and every
transition leads to one of them. Resolution only makes such ones (`connected_of_resolve`). On them a
session that starts on a screen stays on screens (`onScreen_move`, `onScreen_run`): an event moves
to the target of a transition or not at all, and edits do not move.

A session on a screen answers everything but a request for a screen that is not there, and a request
that fails leaves no trace (`Session.Serves`).
-/

namespace ScreenFlow

/-! ## Specifications without dangling transitions -/

/-- Screens are found by their ids, and transitions lead to screens. -/
structure Specification.Connected (spec : Specification) : Prop where
  indexFits : spec.IndexFits
  targets : ∀ transition ∈ spec.transitions, transition.target ∈ spec.screens.map Screen.id

theorem connected_of_resolve {document : Document} {initial : Option String} {spec : Specification}
    (h : document.resolve initial = .ok spec) : spec.Connected := by
  have hlocks := Document.locksTo_of_resolve h
  have hformed := Document.wellFormed_of_resolve h
  refine ⟨?_, fun transition htransition => ?_⟩
  · rw [hlocks.index]
    exact Specification.indexFits_make _ _ _ _ _
  · rw [hlocks.transitions] at htransition
    rw [hlocks.screens]
    exact (hformed.transitions_exist transition htransition).2

/-- An event stays on its screen or moves to the target of a transition. -/
theorem activeScreen_of_settles {spec : Specification} {screen : Screen} {state : State}
    {event : String} {outcome : Outcome} (h : spec.Settles screen state event outcome) :
    outcome.state.activeScreen = state.activeScreen ∨
      ∃ transition ∈ spec.transitions, outcome.state.activeScreen = transition.target := by
  rw [h.activeScreen]
  generalize unblocked screen state (plan state.values (spec.matching screen event)) = entries
  cases hlast : (entries.filterMap fun entry => entry.2.target? spec screen).getLast? with
  | none => exact Or.inl rfl
  | some target =>
    obtain ⟨entry, _, htarget⟩ := List.mem_filterMap.1 (List.mem_of_getLast? hlast)
    exact Or.inr (Step.target?_eq_some htarget)

namespace Session

/-! ## The invariant -/

/-- The active screen is a screen of the specification. -/
def OnScreen (session : Session) : Prop :=
  session.state.activeScreen ∈ session.specification.screens.map Screen.id

theorem onScreen_start {spec : Specification} {assets : Assets} {initial : Option String}
    {session : Session} (hspec : spec.Connected) (h : start spec assets initial = .ok session) :
    session.specification = spec ∧ session.OnScreen := by
  obtain ⟨screen, hscreen, h⟩ := bind_eq_ok_iff.1 h
  obtain rfl := pure_eq_ok_iff.1 h
  refine ⟨rfl, ?_⟩
  show initial.getD spec.initialScreen ∈ spec.screens.map Screen.id
  rw [← Specification.id_of_screen_eq_ok hspec.indexFits hscreen]
  exact List.mem_map_of_mem (Specification.mem_of_screen_eq_ok hscreen)

/-- Triggering a component on a screen runs its event to an outcome. -/
theorem trigger_of_onScreen {session : Session} (h : session.OnScreen) (component : Component) :
    ∃ screen outcome, session.specification.screen session.state.activeScreen = .ok screen ∧
      session.specification.Settles screen session.state (clickOf component) outcome ∧
      (session.trigger component).state = outcome.state ∧
      (session.trigger component).answer = .ok () := by
  obtain ⟨screen, hscreen⟩ := Specification.exists_screen_of_mem h
  obtain ⟨outcome, houtcome, hsettles⟩ :=
    session.specification.exists_settles (clickOf component) hscreen
  refine ⟨screen, outcome, hscreen, hsettles, ?_⟩
  unfold trigger
  rw [houtcome]
  exact ⟨rfl, rfl⟩

theorem onScreen_trigger {session : Session} (hspec : session.specification.Connected)
    (h : session.OnScreen) (component : Component) :
    (session.trigger component).state.activeScreen ∈
      session.specification.screens.map Screen.id := by
  obtain ⟨screen, outcome, _, hsettles, hstate, _⟩ := trigger_of_onScreen h component
  rw [hstate]
  rcases activeScreen_of_settles hsettles with hsame | ⟨transition, htransition, htarget⟩
  · rw [hsame]
    exact h
  · rw [htarget]
    exact hspec.targets transition htransition

theorem onScreen_handle {session : Session} (hspec : session.specification.Connected)
    (h : session.OnScreen) (request : Request) :
    (session.handle request).state.activeScreen ∈
      session.specification.screens.map Screen.id := by
  rw [state_handle]
  generalize hturn : session.apply request = turn
  have hacts : session.Acts request turn := hturn ▸ session.acts_apply request
  cases hacts with
  | missing names absent => exact h
  | idle log known aimless => exact h
  | change found =>
    rw [activeScreen_change]
    exact h
  | trigger found button => exact onScreen_trigger hspec h _

theorem onScreen_move {session : Session} (hspec : session.specification.Connected)
    (h : session.OnScreen) (move : Move) : (session.move move).OnScreen := by
  cases move with
  | handle request => exact onScreen_handle hspec h request
  | change component value =>
    show (session.change component value).state.activeScreen ∈ _
    rw [activeScreen_change]
    exact h
  | trigger component => exact onScreen_trigger hspec h component

theorem onScreen_run {session : Session} (hspec : session.specification.Connected)
    (h : session.OnScreen) (moves : List Move) : (session.run moves).OnScreen := by
  refine (run_induction
    (motive := fun reached => reached.specification.Connected ∧ reached.OnScreen)
    (fun reached move hreached => ?_) ⟨hspec, h⟩ moves).2
  exact ⟨hreached.1, onScreen_move hreached.1 hreached.2 move⟩

/-! ## Service -/

/-- A session that serves: its active screen is there and can be shown, any component can be
triggered, and only a request for a screen that is not there fails, which changes and dispatches
nothing. -/
structure Serves (session : Session) : Prop where
  activeScreen : ∃ screen ∈ session.specification.screens,
    screen.id = session.state.activeScreen ∧ session.activeScreen = .ok screen ∧
      session.snapshot = .ok (.ofScreen screen session.state session.assets)
  trigger : ∀ component, (session.trigger component).answer = .ok ()
  error_iff : ∀ request missing, (session.handle request).answer = .error missing ↔
    request.screenId? = some missing.id ∧
      missing.id ∉ session.specification.screens.map Screen.id
  unchanged : ∀ request missing, (session.handle request).answer = .error missing →
    (session.handle request).state = session.state ∧ (session.handle request).dispatched = []

theorem snapshot_of_onScreen {session : Session} (hspec : session.specification.Connected)
    (h : session.OnScreen) :
    ∃ screen ∈ session.specification.screens,
      screen.id = session.state.activeScreen ∧ session.activeScreen = .ok screen ∧
        session.snapshot = .ok (.ofScreen screen session.state session.assets) := by
  obtain ⟨screen, hscreen⟩ := Specification.exists_screen_of_mem h
  refine ⟨screen, Specification.mem_of_screen_eq_ok hscreen,
    Specification.id_of_screen_eq_ok hspec.indexFits hscreen, hscreen, ?_⟩
  unfold snapshot activeScreen
  rw [hscreen]
  rfl

/-- A request fails exactly if the turn that it asks for does: the screen after the turn is there.
-/
theorem answer_handle_eq_error_iff {session : Session} (hspec : session.specification.Connected)
    (h : session.OnScreen) (request : Request) (missing : ScreenNotFound) :
    (session.handle request).answer = .error missing ↔
      (session.apply request).answer = .error missing := by
  have hmoved := onScreen_handle hspec h request
  rw [state_handle] at hmoved
  obtain ⟨screen, _, _, _, hsnapshot⟩ :=
    @snapshot_of_onScreen (session.withState (session.apply request).state) hspec hmoved
  unfold handle
  cases hanswer : (session.apply request).answer with
  | error other => simp only [hanswer, Except.error.injEq]
  | ok _ => simp only [hanswer, hsnapshot, reduceCtorEq]

@[simp] theorem answer_change (session : Session) (component : Component) (value : String) :
    (session.change component value).answer = .ok () := by
  unfold change
  split <;> rfl

/-- A request for no screen, or for one that is there, misses none. -/
theorem not_missing {session : Session} {request : Request}
    (hspec : session.specification.Connected)
    (h : ∀ id, request.screenId? = some id → ∃ screen, session.specification.screen id = .ok screen)
    (missing : ScreenNotFound) :
    ¬ (request.screenId? = some missing.id ∧
      missing.id ∉ session.specification.screens.map Screen.id) := by
  rintro ⟨hnames, habsent⟩
  obtain ⟨screen, hscreen⟩ := h missing.id hnames
  rw [← Specification.id_of_screen_eq_ok hspec.indexFits hscreen] at habsent
  exact habsent (List.mem_map_of_mem (Specification.mem_of_screen_eq_ok hscreen))

/-- The turn that a request asks for fails exactly if the request names a screen that is not there.
-/
theorem answer_apply_eq_error_iff {session : Session} (hspec : session.specification.Connected)
    (h : session.OnScreen) (request : Request) (missing : ScreenNotFound) :
    (session.apply request).answer = .error missing ↔
      request.screenId? = some missing.id ∧
        missing.id ∉ session.specification.screens.map Screen.id := by
  generalize hturn : session.apply request = turn
  have hacts : session.Acts request turn := hturn ▸ session.acts_apply request
  cases hacts with
  | missing names absent =>
    obtain ⟨habsent, rfl⟩ := (Specification.screen_eq_error_iff_not_mem hspec.indexFits).1 absent
    rw [names, Except.error.injEq, Option.some.injEq]
    constructor
    · rintro rfl
      exact ⟨rfl, habsent⟩
    · rintro ⟨rfl, _⟩
      rfl
  | idle log known aimless => exact iff_of_false nofun (not_missing hspec known missing)
  | change found =>
    obtain ⟨screen, hscreen, _⟩ := found
    rw [answer_change]
    refine iff_of_false nofun (not_missing hspec (fun _ hnames => ?_) missing)
    exact ⟨screen, Option.some.inj hnames ▸ hscreen⟩
  | trigger found button =>
    obtain ⟨screen, hscreen, _⟩ := found
    obtain ⟨_, _, _, _, _, hanswer⟩ := trigger_of_onScreen h _
    rw [hanswer]
    refine iff_of_false nofun (not_missing hspec (fun _ hnames => ?_) missing)
    exact ⟨screen, Option.some.inj hnames ▸ hscreen⟩

/-- A turn that fails leaves the state as it was and dispatches nothing. -/
theorem apply_of_error {session : Session} {request : Request} {missing : ScreenNotFound}
    (h : session.OnScreen) (herror : (session.apply request).answer = .error missing) :
    (session.apply request).state = session.state ∧ (session.apply request).dispatched = [] := by
  generalize hturn : session.apply request = turn at herror ⊢
  have hacts : session.Acts request turn := hturn ▸ session.acts_apply request
  cases hacts with
  | missing names absent => exact ⟨rfl, rfl⟩
  | idle log known aimless => exact ⟨rfl, rfl⟩
  | change found =>
    rw [answer_change] at herror
    cases herror
  | trigger found button =>
    obtain ⟨_, _, _, _, _, hanswer⟩ := trigger_of_onScreen h _
    rw [hanswer] at herror
    cases herror

theorem serves_of_onScreen {session : Session} (hspec : session.specification.Connected)
    (h : session.OnScreen) : session.Serves where
  activeScreen := snapshot_of_onScreen hspec h
  trigger := fun component => by
    obtain ⟨_, _, _, _, _, hanswer⟩ := trigger_of_onScreen h component
    exact hanswer
  error_iff := fun request missing => by
    rw [answer_handle_eq_error_iff hspec h]
    exact answer_apply_eq_error_iff hspec h request missing
  unchanged := fun request missing herror => by
    rw [answer_handle_eq_error_iff hspec h] at herror
    rw [state_handle, dispatched_handle]
    exact apply_of_error h herror

/-- A session on what a document resolves to, once started, serves after every run of moves. -/
theorem serves_run {document : Document} {override start : Option String} {spec : Specification}
    {assets : Assets} {session : Session} (hresolve : document.resolve override = .ok spec)
    (hstart : Session.start spec assets start = .ok session) (moves : List Move) :
    (session.run moves).specification = spec ∧ (session.run moves).Serves := by
  have hspec := connected_of_resolve hresolve
  obtain ⟨rfl, honScreen⟩ := onScreen_start hspec hstart
  refine ⟨session.specification_run moves,
    serves_of_onScreen ?_ (onScreen_run hspec honScreen moves)⟩
  rw [specification_run]
  exact hspec

/-- A form that is left by its button once its field has passed its check. -/
def guardedForm : Document where
  info := none
  screens := [
    ⟨"form", none, none, .standard, [
      ⟨"name", .textField ⟨none, none, none, .text, true, ⟨none⟩⟩⟩,
      ⟨"save", .button ⟨"Save", none, none, none⟩⟩]⟩,
    ⟨"done", none, none, .standard, []⟩]
  rules := [
    ⟨"check", some .screen, some "form", "save.click", [], [.validate ⟨["name"], none, true⟩]⟩,
    ⟨"leave", none, none, "save.click", [], [.start ⟨"store", .empty, some "stored", none⟩]⟩]
  transitions := [⟨"t", "stored", "form", "done", false⟩]
  operational := none

/-- A click that the check stops, an edit, a request for no screen, and a click that leads away. -/
def guardedMoves : List Move := [
  .handle (.buttonClick "form" "save"),
  .handle (.inputChange "form" "name" "Ada"),
  .handle (.inputChange "nowhere" "name" "Ada"),
  .handle (.buttonClick "form" "save")]

theorem serves_run_guardedForm :
    ∃ spec session, guardedForm.resolve none = .ok spec ∧
      Session.start spec .empty none = .ok session ∧
      (session.run guardedMoves).state.activeScreen = "done" ∧
      (session.run guardedMoves).specification = spec ∧ (session.run guardedMoves).Serves := by
  obtain ⟨spec, hresolve⟩ : ∃ spec, guardedForm.resolve none = .ok spec := ⟨_, rfl⟩
  obtain ⟨session, hstart, hleft⟩ : ∃ session, Session.start spec .empty none = .ok session ∧
      (session.run guardedMoves).state.activeScreen = "done" := by
    obtain rfl := Except.ok.inj hresolve
    exact ⟨_, rfl, by decide⟩
  exact ⟨spec, session, hresolve, hstart, hleft, serves_run hresolve hstart guardedMoves⟩

end Session

end ScreenFlow
