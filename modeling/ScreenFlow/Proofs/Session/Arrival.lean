import ScreenFlow.Proofs.Event.Errors
import ScreenFlow.Proofs.Session.ActiveScreen
import ScreenFlow.Proofs.Session.ErrorsUnread

/-!
# Errors on arrival

A click that navigates clears all errors, and yet the screen to which it leads need not open without
one: the steps that follow the navigation are still run on the screen that was left, and a check
among them keeps the errors that it finds there (`sharedKey_faultyArrival`).

Nothing else is left over. What is kept under a key after the click is a fault that a check run
after the last navigation has found with the starting value, so the errors are empty exactly if
those checks find none (`errors_after_navigates`).
-/

namespace ScreenFlow

/-- A check that lists a key finds a fault with its value, by the text field bound to the key. -/
def Step.FindsFault (screen : Screen) (state : State) (key message : String) (step : Step) : Prop :=
  step.Lists key ∧
    ∃ field, screen.textField? key = some field ∧ field.error? (state.value key) = some message

theorem Screen.errorAfter_none_eq_some_iff {screen : Screen} {state : State}
    {entries : List (Rule × Step)} {key message : String} :
    screen.errorAfter state entries key none = some message ↔
      ∃ entry ∈ entries, entry.2.FindsFault screen state key message := by
  unfold Screen.errorAfter Step.FindsFault
  cases hfield : screen.textField? key with
  | none => simp
  | some field =>
    simp only [Option.some.injEq, exists_eq_left']
    by_cases hlists : ∃ entry ∈ entries, entry.2.Lists key
    · obtain ⟨entry, hmem, hentry⟩ := hlists
      rw [if_pos ⟨entry, hmem, hentry⟩]
      exact ⟨fun hfault => ⟨entry, hmem, hentry, hfault⟩, fun ⟨_, _, _, hfault⟩ => hfault⟩
    · rw [if_neg hlists]
      refine iff_of_false nofun ?_
      rintro ⟨entry, hmem, hentry, _⟩
      exact hlists ⟨entry, hmem, hentry⟩

namespace Session

theorem id_of_finds {session : Session} {screenId componentId : String} {component : Component}
    (h : session.Finds screenId componentId component) : component.id = componentId := by
  obtain ⟨_, _, _, hcomponent⟩ := h
  simpa using List.find?_some hcomponent

/-- The errors of a click that navigates are those that its event leaves, a step of which does. -/
theorem leavesErrors_of_navigates {session : Session} {screenId buttonId : String}
    (h : session.Navigates (.buttonClick screenId buttonId)) :
    ∃ screen, session.specification.screen session.state.activeScreen = .ok screen ∧
      (∃ entry ∈ session.specification.trace session.state (buttonId ++ ".click"),
        entry.2.Leads session.specification screen) ∧
      session.specification.LeavesErrors screen session.state
        (session.specification.trace session.state (buttonId ++ ".click"))
        (session.after (.buttonClick screenId buttonId)).state.errors := by
  obtain ⟨component, outcome, hfound, hbutton, hevent, hnavigated⟩ := h
  obtain ⟨screen, hscreen⟩ := exists_activeScreen_of_finds hfound
  have hclick : clickOf component = buttonId ++ ".click" := by rw [clickOf, id_of_finds hfound]
  rw [hclick] at hevent
  obtain ⟨same, hsame, hruns⟩ :=
    session.specification.runs_trace (buttonId ++ ".click") hscreen
  obtain rfl := Except.ok.inj (hevent.symm.trans hsame)
  have hstate : (session.after (.buttonClick screenId buttonId)).state = outcome.state := by
    rw [state_after, apply_of_finds_button hfound hbutton]
    unfold trigger
    rw [hclick, hevent]
  rw [hstate]
  exact ⟨screen, hscreen, (navigated_iff_of_runs hruns).1 hnavigated, leavesErrors_of_runs hruns⟩

/-- **Errors on arrival.** In a session on what a document resolves to, after any run of moves, a
click that navigates leaves exactly the faults that checks find which are run after the last
navigation, on the screen that is left; there are none exactly if those checks find none. -/
theorem errors_after_navigates {document : Document} {override start : Option String}
    {spec : Specification} {assets : Assets} {session : Session}
    (hresolve : document.resolve override = .ok spec)
    (hstart : Session.start spec assets start = .ok session) (moves : List Move)
    {screenId buttonId : String}
    (hnavigates : (session.run moves).Navigates (.buttonClick screenId buttonId)) :
    ∃ screen ∈ spec.screens, screen.id = (session.run moves).state.activeScreen ∧
      ∃ earlier last later,
        spec.trace (session.run moves).state (buttonId ++ ".click") = earlier ++ last :: later ∧
        last.2.Leads spec screen ∧ (∀ entry ∈ later, ¬ entry.2.Leads spec screen) ∧
        (∀ key message,
          ((session.run moves).after (.buttonClick screenId buttonId)).state.errors.get? key =
              some message ↔
            ∃ entry ∈ later,
              entry.2.FindsFault screen (session.run moves).state key message) ∧
        (((session.run moves).after (.buttonClick screenId buttonId)).state.errors = .empty ↔
          ∀ entry ∈ later, ∀ key message,
            ¬ entry.2.FindsFault screen (session.run moves).state key message) := by
  have hspec := connected_of_resolve hresolve
  obtain ⟨rfl, _⟩ := onScreen_start hspec hstart
  rw [← specification_run session moves] at hspec ⊢
  obtain ⟨screen, hscreen, hleads, hleaves⟩ := leavesErrors_of_navigates hnavigates
  refine ⟨screen, Specification.mem_of_screen_eq_ok hscreen,
    Specification.id_of_screen_eq_ok hspec.indexFits hscreen, ?_⟩
  cases hleaves with
  | stayed stays leaves =>
    obtain ⟨entry, hmem, hentry⟩ := hleads
    exact absurd hentry (stays entry hmem)
  | moved earlier last later parts leads stays leaves =>
    have hfaults : ∀ key message,
        ((session.run moves).after (.buttonClick screenId buttonId)).state.errors.get? key =
            some message ↔
          ∃ entry ∈ later, entry.2.FindsFault screen (session.run moves).state key message := by
      intro key message
      rw [leaves]
      exact Screen.errorAfter_none_eq_some_iff
    refine ⟨earlier, last, later, parts, leads, stays, hfaults, ?_⟩
    constructor
    · intro hempty entry hmem key message hfault
      have hkept := (hfaults key message).2 ⟨entry, hmem, hfault⟩
      rw [hempty] at hkept
      cases hkept
    · intro hnone
      refine Bindings.ext_get? fun key => ?_
      rw [Bindings.get?_empty, Option.eq_none_iff_forall_ne_some]
      intro message hkept
      obtain ⟨entry, hmem, hfault⟩ := (hfaults key message).1 hkept
      exact hnone entry hmem key message hfault

/-- A name that the check takes, kept before the click. -/
def namedMoves : List Move := [.handle (.inputChange "form" "name" "Ada")]

/-- The check that follows the navigation finds no fault, and the screen opens without errors. -/
theorem errors_after_navigates_sharedKey :
    ∃ spec session, sharedKey.resolve none = .ok spec ∧
      Session.start spec .empty none = .ok session ∧
      (session.run namedMoves).Navigates (.buttonClick "form" "next") ∧
      ((session.run namedMoves).after (.buttonClick "form" "next")).state.errors = .empty ∧
      ∃ screen ∈ spec.screens, screen.id = "form" ∧ ∃ earlier last later,
        spec.trace (session.run namedMoves).state "next.click" = earlier ++ last :: later ∧
        last.2.Leads spec screen ∧
        ∀ entry ∈ later, ∀ key message,
          ¬ entry.2.FindsFault screen (session.run namedMoves).state key message := by
  obtain ⟨spec, hresolve⟩ : ∃ spec, sharedKey.resolve none = .ok spec := ⟨_, rfl⟩
  obtain ⟨session, hstart, hactive, hnavigates, hempty⟩ : ∃ session,
      Session.start spec .empty none = .ok session ∧
        (session.run namedMoves).state.activeScreen = "form" ∧
        (session.run namedMoves).Navigates (.buttonClick "form" "next") ∧
        ((session.run namedMoves).after (.buttonClick "form" "next")).state.errors = .empty := by
    obtain rfl := Except.ok.inj hresolve
    exact ⟨_, rfl, by decide, ⟨_, _, ⟨_, rfl, rfl, rfl⟩, rfl, rfl, rfl⟩, by decide⟩
  obtain ⟨screen, hscreen, hid, earlier, last, later, hparts, hleads, _, _, hnone⟩ :=
    errors_after_navigates hresolve hstart namedMoves hnavigates
  exact ⟨spec, session, hresolve, hstart, hnavigates, hempty, screen, hscreen, hid.trans hactive,
    earlier, last, later, hparts, hleads, hnone.1 hempty⟩

/-- Without a name, the click leads away and the check that follows keeps its error: the next screen
opens with the error of the one that was left. -/
theorem sharedKey_faultyArrival :
    ∃ spec session, sharedKey.resolve none = .ok spec ∧
      Session.start spec .empty none = .ok session ∧
      session.Navigates (.buttonClick "form" "next") ∧
      (session.after (.buttonClick "form" "next")).state.activeScreen = "again" ∧
      (session.after (.buttonClick "form" "next")).state.errors.get? "user" =
        some Violation.required.message ∧
      (session.after (.buttonClick "form" "next")).state.errors ≠ .empty := by
  obtain ⟨spec, hresolve⟩ : ∃ spec, sharedKey.resolve none = .ok spec := ⟨_, rfl⟩
  refine ⟨spec, ?_⟩
  obtain rfl := Except.ok.inj hresolve
  exact ⟨_, rfl, rfl, ⟨_, _, ⟨_, rfl, rfl, rfl⟩, rfl, rfl, rfl⟩, by decide, by decide, by decide⟩

end Session

end ScreenFlow
