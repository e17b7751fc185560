import ScreenFlow.Proofs.Event.ErrorsUnread
import ScreenFlow.Proofs.Session.Failure
import ScreenFlow.Proofs.Session.Lockstep
import ScreenFlow.Proofs.Session.Values

/-!
# Errors are only shown

Two sessions on one specification whose states agree in all but errors go on alike: each request
leaves states that agree in all but the errors of the keys in which they differed before, succeeds in
both or misses the same screen, and asks for the same operations (`Turn.AgreeOff`,
`agreeOff_handle`). A click that navigates makes the states the same (`state_after_of_navigates`),
and nothing makes them differ again, since sessions in the same state agree in all errors.

The two sessions may have different assets. These are shown, like errors, and decide nothing.
-/

namespace ScreenFlow

/-- Two turns agree in all but the errors of some keys and what is shown and reported. -/
structure Turn.AgreeOff {α : Type} (keys : Set String) (turn other : Turn α) : Prop where
  state : turn.state.AgreeOff keys other.state
  answer : (other.answer.map fun _ => ()) = turn.answer.map fun _ => ()
  dispatched : other.dispatched = turn.dispatched

namespace Session

/-- The request is a click on a button of the active screen, and the event navigates, be it back to
the same screen. -/
def Navigates (session : Session) : Request → Prop
  | .view | .inputChange _ _ _ => False
  | .buttonClick screenId buttonId => ∃ component outcome,
    session.Finds screenId buttonId component ∧ component.isButton = true ∧
      session.specification.handleEvent session.state (clickOf component) = .ok outcome ∧
      outcome.navigated = true

section Turns

variable {keys : Set String} {session other : Session}
  (hspec : other.specification = session.specification)
  (h : session.state.AgreeOff keys other.state)

include h

theorem agreeOff_change (component : Component) (value : String) :
    (session.change component value).AgreeOff keys (other.change component value) := by
  unfold change
  cases component.textField? with
  | none => exact ⟨h, rfl, rfl⟩
  | some field => exact ⟨(h.setValue _ _).setError _ _, rfl, rfl⟩

include hspec

theorem inStep_of_agreeOff : session.InStep other where
  screen := fun _ => by rw [hspec]
  activeScreen := h.activeScreen

theorem agreeOff_trigger (component : Component) :
    (session.trigger component).AgreeOff keys (other.trigger component) := by
  have hactive : other.specification.screen other.state.activeScreen =
      session.specification.screen session.state.activeScreen := by
    rw [hspec, h.activeScreen]
  rcases session.trigger_cases component with
    ⟨missing, habsent, hturn⟩ | ⟨screen, outcome, log, hscreen, _, hsettles, hturn⟩
  · rcases other.trigger_cases component with
      ⟨missing', habsent', hturn'⟩ | ⟨screen', _, _, hscreen', _⟩
    · rw [hactive, habsent] at habsent'
      obtain rfl := Except.error.inj habsent'
      rw [hturn, hturn']
      exact ⟨h, rfl, rfl⟩
    · rw [hactive, habsent] at hscreen'
      cases hscreen'
  · rcases other.trigger_cases component with
      ⟨missing', habsent', _⟩ | ⟨screen', outcome', log', hscreen', _, hsettles', hturn'⟩
    · rw [hactive, hscreen] at habsent'
      cases habsent'
    · rw [hactive, hscreen] at hscreen'
      obtain rfl := Except.ok.inj hscreen'
      rw [hspec] at hsettles'
      obtain ⟨hstate, hdispatched, _⟩ := agreeOff_of_settles h hsettles hsettles'
      rw [hturn, hturn']
      exact ⟨hstate, rfl, hdispatched⟩

theorem agreeOff_apply (request : Request) :
    (session.apply request).AgreeOff keys (other.apply request) :=
  (inStep_of_agreeOff hspec h).apply (Turn.AgreeOff keys) (fun _ _ => ⟨h, rfl, rfl⟩)
    (agreeOff_change h) (agreeOff_trigger hspec h) request

/-- A request has turns that agree. -/
theorem agreeOff_handle (request : Request) :
    (session.handle request).AgreeOff keys (other.handle request) := by
  have happly := agreeOff_apply hspec h request
  refine ⟨?_, ?_, ?_⟩
  · rw [state_handle, state_handle]
    exact happly.state
  · have hshown : ((other.withState (other.apply request).state).snapshot.map fun _ => ()) =
        (session.withState (session.apply request).state).snapshot.map fun _ => () := by
      have hstep : (session.withState (session.apply request).state).InStep
          (other.withState (other.apply request).state) :=
        inStep_of_agreeOff hspec happly.state
      unfold snapshot
      rw [hstep.answer_activeScreen]
      cases (session.withState (session.apply request).state).activeScreen <;> rfl
    rw [answer_handle, answer_handle]
    rcases eq_of_map_eq_map happly.answer with
      ⟨missing, hother, hsession⟩ | ⟨_, _, hother, hsession, _⟩
    · rw [hother, hsession]
      rfl
    · rw [hother, hsession]
      exact hshown
  · rw [dispatched_handle, dispatched_handle]
    exact happly.dispatched

theorem agreeOff_after (request : Request) :
    (session.after request).state.AgreeOff keys (other.after request).state :=
  (agreeOff_handle hspec h request).state

/-- A click that navigates leaves the same state, whatever errors there were. -/
theorem state_after_of_navigates {request : Request} (hnavigates : session.Navigates request) :
    (other.after request).state = (session.after request).state := by
  cases request with
  | view => exact hnavigates.elim
  | inputChange screenId fieldId value => exact hnavigates.elim
  | buttonClick screenId buttonId =>
    obtain ⟨component, outcome, hfound, hbutton, hevent, hnavigated⟩ := hnavigates
    have hfound' : other.Finds screenId buttonId component := by
      unfold Finds
      rw [hspec, h.activeScreen]
      exact hfound
    obtain ⟨screen, hscreen⟩ := exists_activeScreen_of_finds hfound
    have hscreen' : session.specification.screen other.state.activeScreen = .ok screen := by
      rw [h.activeScreen, hscreen]
    obtain ⟨same, hsame, hsettles⟩ :=
      session.specification.exists_settles (clickOf component) hscreen
    obtain rfl := Except.ok.inj (hevent.symm.trans hsame)
    obtain ⟨outcome', hevent', hsettles'⟩ :=
      session.specification.exists_settles (clickOf component) hscreen'
    have hstate := ((agreeOff_of_settles h hsettles hsettles').2.2 hnavigated).eq
    rw [state_after, state_after, apply_of_finds_button hfound hbutton,
      apply_of_finds_button hfound' hbutton]
    unfold trigger
    rw [hspec, hevent, hevent']
    exact hstate

end Turns

/-! ## Runs of requests -/

theorem agreeOff_turns {keys : Set String} {session other : Session}
    (hspec : other.specification = session.specification)
    (h : session.state.AgreeOff keys other.state) (requests : List Request) :
    List.Forall₂ (Turn.AgreeOff keys) (session.turns requests) (other.turns requests) := by
  induction requests generalizing session other with
  | nil => exact .nil
  | cons request requests ih =>
    have hlater := @ih (session.after request) (other.after request) hspec
      (agreeOff_after hspec h request)
    exact .cons (agreeOff_handle hspec h request) hlater

theorem agreeOff_serve {keys : Set String} {session other : Session}
    (hspec : other.specification = session.specification)
    (h : session.state.AgreeOff keys other.state) (requests : List Request) :
    (session.serve requests).state.AgreeOff keys (other.serve requests).state := by
  induction requests generalizing session other with
  | nil => exact h
  | cons request requests ih =>
    exact @ih (session.after request) (other.after request) hspec (agreeOff_after hspec h request)

/-- **Errors are only shown.** Two sessions on one specification, on the same screen and with the same
values, have turns that agree whatever is requested: the same screen is active, the same values are
stored, the same operations are asked for, and both succeed or miss the same screen; and errors differ
at most under keys under which they differed at the start. After the first click that navigates, the
states are the same. -/
theorem turns_agree_off_errors {session other : Session}
    (hspec : other.specification = session.specification)
    (hscreen : other.state.activeScreen = session.state.activeScreen)
    (hvalues : other.state.values = session.state.values) (requests : List Request) :
    List.Forall₂
        (Turn.AgreeOff {key | other.state.errors.get? key ≠ session.state.errors.get? key})
        (session.turns requests) (other.turns requests) ∧
      ∀ earlier click later, requests = earlier ++ click :: later →
        (session.serve earlier).Navigates click →
          (other.serve requests).state = (session.serve requests).state := by
  have hagree : session.state.AgreeOff
      {key | other.state.errors.get? key ≠ session.state.errors.get? key} other.state :=
    ⟨hscreen, hvalues, fun key hkey => not_not.1 hkey⟩
  refine ⟨agreeOff_turns hspec hagree requests, ?_⟩
  rintro earlier click later rfl hnavigates
  have hreached := agreeOff_serve hspec hagree earlier
  have hspec' : (other.serve earlier).specification = (session.serve earlier).specification := by
    rw [specification_serve, specification_serve, hspec]
  have hclicked : ((session.serve earlier).after click).state.AgreeOff ∅
      ((other.serve earlier).after click).state := by
    rw [state_after_of_navigates hspec' hreached hnavigates]
    exact .refl ∅ _
  have hclickedSpec : ((other.serve earlier).after click).specification =
      ((session.serve earlier).after click).specification := hspec'
  rw [serve_append, serve_append]
  exact (agreeOff_serve hclickedSpec hclicked later).eq

/-- An edit, a click that leads away and then checks the edited field, and a look at the screen that
is active then. -/
def awayRequests : List Request :=
  [.inputChange "form" "name" " ", .buttonClick "form" "next", .view]

/-- An old error is forgotten on the way, and the new one is there in both sessions. -/
theorem turns_agree_off_errors_sharedKey :
    ∃ (spec : Specification) (session other : Session), sharedKey.resolve none = .ok spec ∧
      Session.start spec .empty none = .ok session ∧ other.specification = session.specification ∧
      other.state.activeScreen = session.state.activeScreen ∧
      other.state.values = session.state.values ∧ other.state.errors.get? "note" = some "old" ∧
      List.Forall₂
        (Turn.AgreeOff {key | other.state.errors.get? key ≠ session.state.errors.get? key})
        (session.turns awayRequests) (other.turns awayRequests) ∧
      (other.serve awayRequests).state = (session.serve awayRequests).state ∧
      (session.serve awayRequests).state.errors.get? "user" =
        some Violation.required.message := by
  obtain ⟨spec, hresolve⟩ : ∃ spec, sharedKey.resolve none = .ok spec := ⟨_, rfl⟩
  obtain ⟨session, hstart, hnavigates, herror⟩ : ∃ session,
      Session.start spec .empty none = .ok session ∧
        (session.serve [.inputChange "form" "name" " "]).Navigates (.buttonClick "form" "next") ∧
        (session.serve awayRequests).state.errors.get? "user" =
          some Violation.required.message := by
    obtain rfl := Except.ok.inj hresolve
    exact ⟨_, rfl, ⟨_, _, ⟨_, rfl, rfl, rfl⟩, rfl, rfl, rfl⟩, by decide⟩
  let other := session.withState { session.state with errors := .ofList [("note", "old")] }
  have hold : other.state.errors.get? "note" = some "old" := rfl
  obtain ⟨hturns, hsame⟩ :=
    @turns_agree_off_errors session other rfl rfl rfl awayRequests
  exact ⟨spec, session, other, hresolve, hstart, rfl, rfl, rfl, hold, hturns,
    hsame _ _ _ rfl hnavigates, herror⟩

end Session

end ScreenFlow
