import ScreenFlow.Proofs.Session.ActiveScreen

/-!
# Requests that fail

A request is to fail without a trace: the state stays and no operation is asked for. Where all
transitions lead to screens it does. On a specification that was read without being resolved there
is one way to leave a trace, and only one (`leavesTrace_iff_strands`): a click whose rules lead to a
screen that is not there. What the event came to is kept before anything looks for that screen, so
the session is stranded there, and showing it fails.

Nothing is asked of the specification here. Its ids may be repeated and its transitions may dangle.
-/

namespace ScreenFlow.Session

/-- The request fails, and leaves another state or has asked for an operation. -/
def LeavesTrace (session : Session) (request : Request) : Prop :=
  (∃ missing, (session.handle request).answer = .error missing) ∧
    ¬ ((session.handle request).state = session.state ∧ (session.handle request).dispatched = [])

/-- The request clicks on a button of the active screen, and the event leads to a screen that is not
there. -/
def Strands (session : Session) : Request → Prop
  | .view | .inputChange _ _ _ => False
  | .buttonClick screenId buttonId => ∃ component outcome missing,
    session.Finds screenId buttonId component ∧ component.isButton = true ∧
      session.specification.handleEvent session.state (clickOf component) = .ok outcome ∧
      session.specification.screen outcome.state.activeScreen = .error missing

variable {session : Session} {request : Request}

/-! ## Clicks that reach a button -/

theorem exists_activeScreen_of_finds {screenId componentId : String} {component : Component}
    (h : session.Finds screenId componentId component) :
    ∃ screen, session.specification.screen session.state.activeScreen = .ok screen := by
  obtain ⟨screen, hscreen, hactive, _⟩ := h
  rw [← hactive]
  exact Specification.exists_screen_of_mem
    (List.mem_map_of_mem (Specification.mem_of_screen_eq_ok hscreen))

theorem target_of_finds {screenId componentId : String} {component : Component}
    (h : session.Finds screenId componentId component) :
    session.target screenId componentId = .ok (some component, []) := by
  obtain ⟨screen, hscreen, hactive, hcomponent⟩ := h
  unfold target
  simp [hscreen, hactive, hcomponent, bind, Except.bind, pure, Except.pure]

theorem apply_of_finds_button {screenId buttonId : String} {component : Component}
    (h : session.Finds screenId buttonId component) (hbutton : component.isButton = true) :
    session.apply (.buttonClick screenId buttonId) = session.trigger component := by
  show session.onTarget screenId buttonId _ = _
  unfold onTarget
  rw [target_of_finds h]
  exact if_pos hbutton

/-! ## What fails -/

/-- A turn that succeeds can be shown exactly if the screen is there to which it has led. -/
theorem answer_handle_eq_error_iff_of_ok (h : (session.apply request).answer = .ok ())
    {missing : ScreenNotFound} :
    (session.handle request).answer = .error missing ↔
      session.specification.screen (session.apply request).state.activeScreen =
        .error missing := by
  unfold handle snapshot activeScreen withState
  simp only [h]
  cases session.specification.screen (session.apply request).state.activeScreen with
  | error other =>
    show Except.error other = Except.error missing ↔ _
    rw [Except.error.injEq, Except.error.injEq]
  | ok screen => exact iff_of_false nofun nofun

theorem strands_of_leavesTrace (h : session.LeavesTrace request) : session.Strands request := by
  obtain ⟨⟨missing, herror⟩, htrace⟩ := h
  rw [state_handle, dispatched_handle] at htrace
  generalize hturn : session.apply request = turn at htrace
  have hacts : session.Acts request turn := hturn ▸ session.acts_apply request
  cases hacts with
  | missing names absent => exact absurd ⟨rfl, rfl⟩ htrace
  | idle log known aimless => exact absurd ⟨rfl, rfl⟩ htrace
  | change found =>
    -- an edit stays on its screen, which can be shown
    obtain ⟨screen, hscreen⟩ := exists_activeScreen_of_finds found
    rw [answer_handle_eq_error_iff_of_ok (by rw [hturn, answer_change]), hturn,
      activeScreen_change, hscreen] at herror
    cases herror
  | @trigger _ _ component found button =>
    rcases session.trigger_cases component with
      ⟨_, _, hfails⟩ | ⟨screen, outcome, log, _, hevent, _, hruns⟩
    · rw [hfails] at htrace
      exact absurd ⟨rfl, rfl⟩ htrace
    · rw [answer_handle_eq_error_iff_of_ok (by rw [hturn, hruns]), hturn, hruns] at herror
      exact ⟨component, outcome, missing, found, button, hevent, herror⟩

theorem leavesTrace_of_strands (h : session.Strands request) : session.LeavesTrace request := by
  cases request with
  | view => exact h.elim
  | inputChange screenId fieldId value => exact h.elim
  | buttonClick screenId buttonId =>
    obtain ⟨component, outcome, missing, hfound, hbutton, hevent, hmissing⟩ := h
    have hturn : ∃ log, session.apply (.buttonClick screenId buttonId) =
        ⟨outcome.state, .ok (), outcome.dispatched, log⟩ := by
      rw [apply_of_finds_button hfound hbutton]
      unfold trigger
      rw [hevent]
      exact ⟨_, rfl⟩
    obtain ⟨log, hturn⟩ := hturn
    constructor
    · refine ⟨missing, (answer_handle_eq_error_iff_of_ok (by rw [hturn])).2 ?_⟩
      rw [hturn]
      exact hmissing
    · -- the screen of the button is there, so it is not the one to which the event leads
      rintro ⟨hstate, _⟩
      obtain ⟨screen, hscreen⟩ := exists_activeScreen_of_finds hfound
      rw [state_handle, hturn] at hstate
      dsimp only at hstate
      rw [hstate, hscreen] at hmissing
      cases hmissing

/-- Only a transition that dangles can strand a session. -/
theorem exists_dangling_of_strands (h : session.Strands request) :
    ∃ transition ∈ session.specification.transitions,
      session.specification.screen transition.target = .error ⟨transition.target⟩ := by
  cases request with
  | view => exact h.elim
  | inputChange screenId fieldId value => exact h.elim
  | buttonClick screenId buttonId =>
    obtain ⟨component, outcome, missing, hfound, _, hevent, hmissing⟩ := h
    obtain ⟨screen, hscreen⟩ := exists_activeScreen_of_finds hfound
    obtain ⟨same, hsame, hsettles⟩ :=
      session.specification.exists_settles (clickOf component) hscreen
    obtain rfl := Except.ok.inj (hevent.symm.trans hsame)
    rcases activeScreen_of_settles hsettles with hstays | ⟨transition, htransition, htarget⟩
    · rw [hstays, hscreen] at hmissing
      cases hmissing
    · rw [htarget] at hmissing
      obtain ⟨_, rfl⟩ := Specification.screen_eq_error_iff.1 hmissing
      exact ⟨transition, htransition, hmissing⟩

/-- **Failing without a trace.** In any session, a request fails and leaves a trace exactly if it is
a click that strands the session, and only a transition that dangles can do that. -/
theorem leavesTrace_iff_strands (session : Session) (request : Request) :
    (session.LeavesTrace request ↔ session.Strands request) ∧
      (session.Strands request → ∃ transition ∈ session.specification.transitions,
        session.specification.screen transition.target = .error ⟨transition.target⟩) :=
  ⟨⟨strands_of_leavesTrace, leavesTrace_of_strands⟩, exists_dangling_of_strands⟩

/-- A form whose button asks for an operation and then leads nowhere. -/
def danglingForm : Specification :=
  .unindexed none "form"
    [⟨"form", none, none, .standard, [⟨"save", .button ⟨"Save", none, none, none⟩⟩]⟩]
    [⟨"leave", .global, "save.click", [], [.start ⟨"store", .empty, some "stored", none⟩]⟩]
    [⟨"t", "stored", "form", "gone", false⟩]

/-- The click fails, and yet the session has moved and its host was asked for the operation. -/
theorem danglingForm_leavesTrace :
    ∃ session, start danglingForm .empty none = .ok session ∧
      session.LeavesTrace (.buttonClick "form" "save") ∧
      (session.handle (.buttonClick "form" "save")).answer = .error ⟨"gone"⟩ ∧
      session.state.activeScreen = "form" ∧
      (session.handle (.buttonClick "form" "save")).state.activeScreen = "gone" ∧
      (session.handle (.buttonClick "form" "save")).dispatched =
        [⟨"form", "leave", "store", .empty, some "stored", none⟩] := by
  have hdispatched : ∀ session, start danglingForm .empty none = .ok session →
      (session.handle (.buttonClick "form" "save")).dispatched =
        [⟨"form", "leave", "store", .empty, some "stored", none⟩] := by
    intro session hstart
    obtain rfl := eq_of_start hstart
    rfl
  refine ⟨_, rfl, ⟨⟨⟨"gone"⟩, rfl⟩, fun htraceless => ?_⟩, rfl, rfl, rfl, hdispatched _ rfl⟩
  rw [hdispatched _ rfl] at htraceless
  cases htraceless.2

end ScreenFlow.Session
