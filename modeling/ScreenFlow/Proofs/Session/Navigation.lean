import ScreenFlow.Proofs.Event.Navigation
import ScreenFlow.Proofs.Session.ActiveScreen

/-!
# Where a session goes

The active screens of a run of requests are a walk over the declared transitions
(`Session.trail`, `walks_trail`). A step of the walk that leaves a screen is a click on one of its
buttons; during the click an operation is asked for, and the first transition that its success event
has from the screen leads to where the session then is (`Session.Steps`). However many navigations
the rules of one click make, none of them follows a transition that leaves another screen than the
one that was clicked on.
-/

namespace ScreenFlow

namespace Specification

/-- A transition is the first one declared for an event that leaves a screen. -/
structure FirstWay (spec : Specification) (event source : String) (transition : Transition) :
    Prop where
  onEvent : transition.event = event
  leaves : transition.source = source
  first : ∃ earlier later, spec.transitions = earlier ++ transition :: later ∧
    ∀ other ∈ earlier, ¬ (other.event = event ∧ other.source = source)

/-- Some transition is declared from one screen to another. -/
def Links (spec : Specification) (source target : String) : Prop :=
  ∃ transition ∈ spec.transitions, transition.source = source ∧ transition.target = target

variable {spec : Specification} {event source target : String}

theorem target?_eq_some_iff :
    spec.target? event source = some target ↔
      ∃ transition, spec.FirstWay event source transition ∧ transition.target = target := by
  unfold target? transition?
  rw [Option.map_eq_some_iff]
  refine exists_congr fun transition => and_congr_left fun _ => ?_
  rw [List.find?_eq_some_iff_append, decide_eq_true_eq]
  simp only [Bool.not_eq_true', decide_eq_false_iff_not]
  constructor
  · rintro ⟨⟨hevent, hsource⟩, hfirst⟩
    exact ⟨hevent, hsource, hfirst⟩
  · intro h
    exact ⟨⟨h.onEvent, h.leaves⟩, h.first⟩

theorem links_of_target? (h : spec.target? event source = some target) :
    spec.Links source target := by
  obtain ⟨transition, hway, htarget⟩ := target?_eq_some_iff.1 h
  obtain ⟨earlier, later, htransitions, _⟩ := hway.first
  refine ⟨transition, ?_, hway.leaves, htarget⟩
  rw [htransitions]
  exact List.mem_append_right _ List.mem_cons_self

end Specification

/-- A turn accounts for its navigations from a screen. -/
abbrev Turn.Accounts {α : Type} (spec : Specification) (screenId : String) (turn : Turn α) : Prop :=
  spec.Accounts screenId turn.state.activeScreen turn.dispatched turn.log

namespace Session

variable {session : Session}

/-! ## Requests account for their navigations -/

theorem accounts_idle (spec : Specification) {log : List Diagnostic}
    (hplain : ∀ diagnostic ∈ log, diagnostic.Plain) :
    (session.idle log).Accounts spec session.state.activeScreen :=
  (Specification.Accounts.start spec _).note hplain

theorem accounts_change (spec : Specification) (component : Component) (value : String) :
    (session.change component value).Accounts spec session.state.activeScreen := by
  show spec.Accounts _ (session.change component value).state.activeScreen _ _
  rw [activeScreen_change]
  unfold change
  cases component.textField? with
  | none => exact (Specification.Accounts.start spec _).note_one nofun
  | some field => exact .start spec _

theorem accounts_trigger (hspec : session.specification.Connected) (h : session.OnScreen)
    (component : Component) :
    (session.trigger component).Accounts session.specification session.state.activeScreen := by
  obtain ⟨screen, hscreen⟩ := Specification.exists_screen_of_mem h
  obtain ⟨outcome, houtcome, _⟩ :=
    session.specification.exists_settles (clickOf component) hscreen
  have hactive := Specification.id_of_screen_eq_ok hspec.indexFits hscreen
  have haccounts := accounts_handleEvent _ screen hscreen hactive houtcome
  rw [hactive] at haccounts
  unfold trigger
  rw [houtcome]
  refine haccounts.note ?_
  split
  · exact Diagnostic.Plain.singleton nofun
  · exact nofun

theorem plain_target {screenId componentId : String} {found : Option Component}
    {log : List Diagnostic} (h : session.target screenId componentId = .ok (found, log)) :
    ∀ diagnostic ∈ log, diagnostic.Plain := by
  obtain ⟨screen, _, h⟩ := bind_eq_ok_iff.1 h
  split at h
  · obtain rfl := (Prod.mk.inj (pure_eq_ok_iff.1 h)).2
    exact Diagnostic.Plain.singleton nofun
  · split at h
    · obtain rfl := (Prod.mk.inj (pure_eq_ok_iff.1 h)).2
      exact nofun
    · obtain rfl := (Prod.mk.inj (pure_eq_ok_iff.1 h)).2
      exact Diagnostic.Plain.singleton nofun

theorem accounts_onTarget (spec : Specification) (screenId componentId : String)
    {act : Component → Turn Unit}
    (hact : ∀ component, (act component).Accounts spec session.state.activeScreen) :
    (session.onTarget screenId componentId act).Accounts spec session.state.activeScreen := by
  unfold onTarget
  cases htarget : session.target screenId componentId with
  | error missing => exact .start spec _
  | ok found =>
    obtain ⟨_ | component, log⟩ := found
    · exact accounts_idle spec (plain_target htarget)
    · exact hact component

theorem accounts_apply (hspec : session.specification.Connected) (h : session.OnScreen)
    (request : Request) :
    (session.apply request).Accounts session.specification session.state.activeScreen := by
  cases request with
  | view => exact accounts_idle _ nofun
  | inputChange screenId fieldId value =>
    exact accounts_onTarget _ screenId fieldId fun component => accounts_change _ component value
  | buttonClick screenId buttonId =>
    refine accounts_onTarget _ screenId buttonId fun component => ?_
    cases component.isButton with
    | true => exact accounts_trigger hspec h component
    | false => exact accounts_idle _ (Diagnostic.Plain.singleton nofun)

theorem plain_snapshotReport (session : Session) :
    ∀ diagnostic ∈ session.snapshotReport, diagnostic.Plain := by
  intro diagnostic hmem
  unfold snapshotReport at hmem
  split at hmem
  · obtain ⟨image, _, hmem⟩ := List.mem_flatMap.1 hmem
    unfold Image.sourceReport at hmem
    split at hmem
    · split at hmem
      · cases hmem
      · exact List.mem_singleton.1 hmem ▸ nofun
    · cases hmem
  · cases hmem

theorem accounts_handle (hspec : session.specification.Connected) (h : session.OnScreen)
    (request : Request) :
    (session.handle request).Accounts session.specification session.state.activeScreen := by
  have happly := accounts_apply hspec h request
  unfold handle
  dsimp only
  split
  · exact happly
  · exact happly.note (plain_snapshotReport _)

/-! ## Steps of the walk -/

/-- During a request an operation is asked for on a screen, and its success event leads from there to
another screen, by the first transition that is declared for it. -/
def Asks (session : Session) (request : Request) (source event target : String) : Prop :=
  ∃ operation ∈ (session.handle request).dispatched,
    operation.screenId = source ∧ operation.successEvent = some event ∧
      ∃ transition, session.specification.FirstWay event source transition ∧
        transition.target = target

/-- What a request may do to the active screen. -/
structure Steps (session : Session) (request : Request) : Prop where
  /-- It only leaves it by a click on one of its buttons, to where an operation leads. -/
  leaves : (session.after request).state.activeScreen ≠ session.state.activeScreen →
    (∃ screen ∈ session.specification.screens, screen.id = session.state.activeScreen ∧
      ∃ button ∈ screen.components, button.isButton = true ∧
        request = .buttonClick session.state.activeScreen button.id) ∧
    ∃ event, session.Asks request session.state.activeScreen event
      (session.after request).state.activeScreen
  /-- Every navigation on the way, the last or not, leads from the screen of the request to where an
  operation leads. -/
  follows : ∀ event source target, .navigating event source target ∈ (session.handle request).log →
    source = session.state.activeScreen ∧ session.Asks request source event target

theorem asks_of_navigating (hspec : session.specification.Connected) (h : session.OnScreen)
    {request : Request} {event source target : String}
    (hlog : .navigating event source target ∈ (session.handle request).log) :
    source = session.state.activeScreen ∧ session.Asks request source event target := by
  obtain ⟨rfl, htarget, operation, hasked, hscreen, hsuccess⟩ :=
    (accounts_handle hspec h request).followed event source target hlog
  exact ⟨rfl, operation, hasked, hscreen, hsuccess, Specification.target?_eq_some_iff.1 htarget⟩

/-- Only a click on a button of the active screen leaves it. -/
theorem click_of_activeScreen_ne (hspec : session.specification.Connected) {request : Request}
    (hne : (session.after request).state.activeScreen ≠ session.state.activeScreen) :
    ∃ screen ∈ session.specification.screens, screen.id = session.state.activeScreen ∧
      ∃ button ∈ screen.components, button.isButton = true ∧
        request = .buttonClick session.state.activeScreen button.id := by
  rw [state_after] at hne
  generalize hturn : session.apply request = turn at hne
  have hacts : session.Acts request turn := hturn ▸ session.acts_apply request
  cases hacts with
  | missing names absent => exact absurd rfl hne
  | idle log known aimless => exact absurd rfl hne
  | change found => exact absurd (activeScreen_change _ _ _) hne
  | @trigger screenId buttonId component found button =>
    obtain ⟨screen, hscreen, hactive, hcomponent⟩ := found
    have hid := Specification.id_of_screen_eq_ok hspec.indexFits hscreen
    have hname : component.id = buttonId := by simpa using List.find?_some hcomponent
    refine ⟨screen, Specification.mem_of_screen_eq_ok hscreen, hactive, component,
      List.mem_of_find?_eq_some hcomponent, button, ?_⟩
    rw [← hactive, hid, hname]

theorem steps_of_onScreen (hspec : session.specification.Connected) (h : session.OnScreen)
    (request : Request) : session.Steps request where
  leaves := by
    intro hne
    refine ⟨click_of_activeScreen_ne hspec hne, ?_⟩
    rcases (accounts_handle hspec h request).arrived with hstays | ⟨event, hlog⟩
    · exact absurd hstays hne
    · exact ⟨event, (asks_of_navigating hspec h hlog).2⟩
  follows := fun _ _ _ hlog => asks_of_navigating hspec h hlog

/-! ## The walk -/

/-- The active screens of a run of requests, from the first one on. -/
def trail (session : Session) (requests : List Request) : List String :=
  session.state.activeScreen :: (session.turns requests).map (·.state.activeScreen)

theorem trail_cons (session : Session) (request : Request) (requests : List Request) :
    session.trail (request :: requests) =
      session.state.activeScreen :: (session.after request).trail requests := rfl

theorem links_of_after (hspec : session.specification.Connected) (h : session.OnScreen)
    (request : Request) :
    session.state.activeScreen = (session.after request).state.activeScreen ∨
      session.specification.Links session.state.activeScreen
        (session.after request).state.activeScreen := by
  have haccounts := accounts_handle hspec h request
  rcases haccounts.arrived with hstays | ⟨event, hlog⟩
  · exact Or.inl hstays.symm
  · exact Or.inr (Specification.links_of_target? (haccounts.followed _ _ _ hlog).2.1)

/-- Each screen of the walk is the one before it or linked from there. -/
theorem isChain_trail (hspec : session.specification.Connected) (h : session.OnScreen)
    (requests : List Request) :
    (session.trail requests).IsChain fun source target =>
      source = target ∨ session.specification.Links source target := by
  induction requests generalizing session with
  | nil => exact List.IsChain.singleton _
  | cons request requests ih =>
    rw [trail_cons]
    exact List.IsChain.cons_cons (links_of_after hspec h request)
      (@ih (session.after request) hspec (onScreen_handle hspec h request))

/-- **Navigation.** The active screens of a session on what a document resolves to are a walk over
the declared transitions, from the screen on which the session starts, whatever is requested. At any
time, a request leaves the active screen only if it is a click on one of its buttons, and leads to
where the first transition from there leads for the success event of an operation that was asked for;
and of all navigations that the click makes, none leaves another screen. -/
theorem walks_trail {document : Document} {override start : Option String} {spec : Specification}
    {assets : Assets} {session : Session} (hresolve : document.resolve override = .ok spec)
    (hstart : Session.start spec assets start = .ok session) (requests : List Request) :
    (session.trail requests).head? = some (start.getD spec.initialScreen) ∧
      ((session.trail requests).IsChain fun source target =>
        source = target ∨ spec.Links source target) ∧
      (session.serve requests).specification = spec ∧
      ∀ request, (session.serve requests).Steps request := by
  have hspec := connected_of_resolve hresolve
  obtain ⟨rfl, honScreen⟩ := onScreen_start hspec hstart
  refine ⟨?_, isChain_trail hspec honScreen requests, session.specification_serve requests, ?_⟩
  · rw [eq_of_start hstart]
    rfl
  · have hreached := onScreen_run hspec honScreen (requests.map .handle)
    exact steps_of_onScreen (by rw [specification_serve]; exact hspec) hreached

/-- A screen whose button leads to the left and then to the right. The way from the left back on the
second event is declared first. -/
def crossroads : Document where
  info := none
  screens := [
    ⟨"hub", none, none, .standard, [⟨"go", .button ⟨"Go", none, none, none⟩⟩]⟩,
    ⟨"left", none, none, .standard, []⟩,
    ⟨"right", none, none, .standard, []⟩]
  rules := [
    ⟨"look", none, none, "go.click", [], [.start ⟨"scout", .empty, some "seen", none⟩]⟩,
    ⟨"leave", some .screen, some "hub", "go.click", [],
      [.start ⟨"move", .empty, some "ready", none⟩]⟩]
  transitions := [
    ⟨"back", "ready", "left", "hub", false⟩,
    ⟨"aside", "seen", "hub", "left", false⟩,
    ⟨"onward", "ready", "hub", "right", false⟩]
  operational := none

theorem walks_trail_crossroads :
    ∃ spec session, crossroads.resolve none = .ok spec ∧
      Session.start spec .empty none = .ok session ∧
      session.trail [.buttonClick "hub" "go", .view] = ["hub", "right", "right"] ∧
      ((session.trail [.buttonClick "hub" "go", .view]).IsChain fun source target =>
        source = target ∨ spec.Links source target) ∧
      (session.handle (.buttonClick "hub" "go")).dispatched.map Operation.operation =
        ["scout", "move"] ∧
      session.Steps (.buttonClick "hub" "go") := by
  obtain ⟨spec, hresolve⟩ : ∃ spec, crossroads.resolve none = .ok spec := ⟨_, rfl⟩
  obtain ⟨session, hstart, htrail, hasked⟩ : ∃ session,
      Session.start spec .empty none = .ok session ∧
        session.trail [.buttonClick "hub" "go", .view] = ["hub", "right", "right"] ∧
        (session.handle (.buttonClick "hub" "go")).dispatched.map Operation.operation =
          ["scout", "move"] := by
    obtain rfl := Except.ok.inj hresolve
    exact ⟨_, rfl, by decide, by decide⟩
  obtain ⟨_, hchain, _⟩ := walks_trail hresolve hstart [.buttonClick "hub" "go", .view]
  obtain ⟨_, _, _, hsteps⟩ := walks_trail hresolve hstart []
  exact ⟨spec, session, hresolve, hstart, htrail, hchain, hasked, hsteps _⟩

end Session

end ScreenFlow
