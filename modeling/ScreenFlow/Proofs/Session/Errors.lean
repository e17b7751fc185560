import ScreenFlow.Proofs.Session.Values

/-!
# Errors are current

An error that is kept under a key is the verdict of a text field on the value that the key has now
(`Specification.Current`). Errors are written by edits, together with the value that they judge, and
by checks, which judge the value there is; no other step of an event writes a value or an error, and
navigation clears all errors. So every request keeps errors current (`current_after`), whatever the
specification, and so does every run of requests (`errors_serve`).

Which field has spoken need not be known, nor is it on the active screen: an event may navigate and
then check fields of the screen on which it began.
-/

namespace ScreenFlow

/-- A text field that is bound to a key finds a fault with the value of the key. -/
def Specification.Faults (spec : Specification) (state : State) (key message : String) : Prop :=
  ∃ screen ∈ spec.screens, ∃ component ∈ screen.components, ∃ field,
    component.textField? = some field ∧ component.bindingKey = key ∧
      field.error? (state.value key) = some message

/-- Every error is a fault that a text field finds with the value there is. -/
def Specification.Current (spec : Specification) (state : State) : Prop :=
  ∀ key message, state.errors.get? key = some message → spec.Faults state key message

namespace Specification

variable {spec : Specification}

theorem faults_congr {state other : State} (h : state.values = other.values)
    {key message : String} : spec.Faults state key message ↔ spec.Faults other key message := by
  unfold Faults
  rw [State.value_congr h]

theorem current_initial (spec : Specification) (screen : String) :
    spec.Current (.initial screen) := by
  intro key message h
  cases h

/-! ## Events -/

variable {screen : Screen} {state : State} {key : String}

/-- What a step leaves as an error is a fault, if what it meets is one. -/
theorem faults_of_errorAfter (hscreen : screen ∈ spec.screens) {current : Option String}
    (hcurrent : ∀ message, current = some message → spec.Faults state key message) (step : Step)
    {message : String} (h : step.errorAfter spec screen state key current = some message) :
    spec.Faults state key message := by
  unfold Step.errorAfter at h
  cases step with
  | validate check =>
    dsimp only at h
    split at h
    · cases hfield : screen.textField? key with
      | none =>
        rw [hfield] at h
        exact hcurrent message h
      | some field =>
        rw [hfield] at h
        obtain ⟨component, hcomponent, htext, hbound⟩ := Screen.textField?_eq_some hfield
        exact ⟨screen, hscreen, component, hcomponent, field, htext, hbound, h⟩
    · exact hcurrent message h
  | start call =>
    dsimp only at h
    split at h
    · cases h
    · exact hcurrent message h
  | unsupported => exact hcurrent message h

theorem faults_of_foldl_errorAfter (hscreen : screen ∈ spec.screens) (entries : List (Rule × Step))
    {current : Option String}
    (hcurrent : ∀ message, current = some message → spec.Faults state key message)
    {message : String}
    (h : entries.foldl (fun current entry => entry.2.errorAfter spec screen state key current)
      current = some message) : spec.Faults state key message := by
  induction entries generalizing current with
  | nil => exact hcurrent message h
  | cons entry entries ih =>
    exact ih (fun _ hstep => faults_of_errorAfter hscreen hcurrent entry.2 hstep) h

/-- An event keeps errors current. -/
theorem current_of_settles {event : String} {outcome : Outcome} (hscreen : screen ∈ spec.screens)
    (hsettles : spec.Settles screen state event outcome) (h : spec.Current state) :
    spec.Current outcome.state := by
  intro key message herror
  rw [hsettles.errors] at herror
  rw [faults_congr hsettles.values]
  exact faults_of_foldl_errorAfter hscreen _ (h key) herror

/-! ## Edits -/

/-- An edit of a component of a screen keeps errors current. -/
theorem current_change {session : Session} {component : Component} (hscreen : screen ∈ spec.screens)
    (hcomponent : component ∈ screen.components) (h : spec.Current session.state) (value : String) :
    spec.Current (session.change component value).state := by
  unfold Session.change
  cases hfield : component.textField? with
  | none => exact h
  | some field =>
    intro key message herror
    dsimp only at herror ⊢
    rw [State.get?_errors_setError] at herror
    rw [faults_congr (State.values_setError _ _ _)]
    by_cases hkey : key = component.bindingKey
    · -- the error under the key of the field is its verdict on the value just stored
      rw [if_pos hkey] at herror
      refine ⟨screen, hscreen, component, hcomponent, field, hfield, hkey.symm, ?_⟩
      rw [hkey, State.value, State.setValue, Bindings.get?_insert_self]
      exact herror
    · rw [if_neg hkey] at herror
      obtain ⟨other, hother, owner, howner, judge, hjudge, hbound, hfault⟩ := h key message herror
      refine ⟨other, hother, owner, howner, judge, hjudge, hbound, ?_⟩
      rw [State.value, State.setValue, Bindings.get?_insert, if_neg hkey]
      exact hfault

end Specification

namespace Session

/-- Every request keeps errors current. -/
theorem current_after {session : Session} (h : session.specification.Current session.state)
    (request : Request) : session.specification.Current (session.after request).state := by
  rw [state_after]
  generalize hturn : session.apply request = turn
  have hacts : session.Acts request turn := hturn ▸ session.acts_apply request
  cases hacts with
  | missing names absent => exact h
  | idle log known aimless => exact h
  | change found =>
    obtain ⟨screen, hscreen, _, hcomponent⟩ := found
    exact Specification.current_change (Specification.mem_of_screen_eq_ok hscreen)
      (List.mem_of_find?_eq_some hcomponent) h _
  | @trigger _ _ component found button =>
    rcases session.trigger_cases component with
      ⟨missing, _, hfails⟩ | ⟨screen, outcome, log, hscreen, _, hsettles, hruns⟩
    · rw [hfails]
      exact h
    · rw [hruns]
      exact Specification.current_of_settles (Specification.mem_of_screen_eq_ok hscreen) hsettles h

theorem current_serve {session : Session} (h : session.specification.Current session.state)
    (requests : List Request) : session.specification.Current (session.serve requests).state := by
  have hreached := serve_induction
    (motive := fun reached => reached.specification.Current reached.state)
    (fun reached request hreached => current_after hreached request) h requests
  rw [specification_serve] at hreached
  exact hreached

/-- **Errors are current.** In a session on any specification, an error that is there after a run of
requests is the verdict of a text field, bound to its key, on the value that the key has then. -/
theorem errors_serve {spec : Specification} {assets : Assets} {start : Option String}
    {session : Session} (hstart : Session.start spec assets start = .ok session)
    (requests : List Request) {key message : String}
    (herror : (session.serve requests).state.errors.get? key = some message) :
    spec.Faults (session.serve requests).state key message := by
  obtain rfl := eq_of_start hstart
  exact current_serve (spec.current_initial _) requests key message herror

/-- A blank name, and a click that leads away before it checks the name. -/
def blankNameRequests : List Request := [
  .inputChange "form" "name" " ",
  .buttonClick "form" "next"]

/-- The error is that of the screen that was left; the field of the same key on the active screen
takes the value. -/
theorem errors_serve_sharedKey :
    ∃ spec session, sharedKey.resolve none = .ok spec ∧
      Session.start spec .empty none = .ok session ∧
      (session.serve blankNameRequests).state.activeScreen = "again" ∧
      (session.serve blankNameRequests).state.errors.get? "user" =
        some Violation.required.message ∧
      spec.Faults (session.serve blankNameRequests).state "user" Violation.required.message := by
  obtain ⟨spec, hresolve⟩ : ∃ spec, sharedKey.resolve none = .ok spec := ⟨_, rfl⟩
  obtain ⟨session, hstart, hactive, herror⟩ : ∃ session,
      Session.start spec .empty none = .ok session ∧
        (session.serve blankNameRequests).state.activeScreen = "again" ∧
        (session.serve blankNameRequests).state.errors.get? "user" =
          some Violation.required.message := by
    obtain rfl := Except.ok.inj hresolve
    exact ⟨_, rfl, by decide, by decide⟩
  exact ⟨spec, session, hresolve, hstart, hactive, herror, errors_serve hstart _ herror⟩

end Session

end ScreenFlow
