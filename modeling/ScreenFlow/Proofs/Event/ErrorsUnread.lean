import Mathlib.Data.Set.Basic
import ScreenFlow.Proofs.Event.ClosedForm

/-!
# Events do not read errors

Two states that agree in all but the errors of some keys (`State.AgreeOff`) make an event come to the
same in all but the errors of these keys. What decides it are guards and checks, which read values
(`unblocked_congr`, `executed_congr`); an error is only written, by a check of its key, or cleared,
by a navigation. A navigation clears every error, so after an event that has navigated the two states
are the same (`agreeOff_of_settles`).
-/

namespace ScreenFlow

/-! ## States -/

/-- Two states agree in all but the errors of some keys. -/
structure State.AgreeOff (keys : Set String) (state other : State) : Prop where
  activeScreen : other.activeScreen = state.activeScreen
  values : other.values = state.values
  errors : ∀ key ∉ keys, other.errors.get? key = state.errors.get? key

namespace State.AgreeOff

variable {keys : Set String} {state other : State}

theorem refl (keys : Set String) (state : State) : state.AgreeOff keys state :=
  ⟨rfl, rfl, fun _ _ => rfl⟩

/-- States that agree everywhere are the same. -/
theorem eq (h : state.AgreeOff ∅ other) : other = state := by
  obtain ⟨hactive, hvalues, herrors⟩ := h
  have hsame : other.errors = state.errors :=
    Bindings.ext_get? fun key => herrors key (Set.notMem_empty key)
  cases state
  cases other
  simp_all

theorem setValue (h : state.AgreeOff keys other) (key value : String) :
    (state.setValue key value).AgreeOff keys (other.setValue key value) where
  activeScreen := h.activeScreen
  values := by
    unfold State.setValue
    rw [h.values]
  errors := h.errors

theorem setError (h : state.AgreeOff keys other) (key : String) (error : Option String) :
    (state.setError key error).AgreeOff keys (other.setError key error) where
  activeScreen := by rw [activeScreen_setError, activeScreen_setError, h.activeScreen]
  values := by rw [values_setError, values_setError, h.values]
  errors := by
    intro name hname
    rw [get?_errors_setError, get?_errors_setError, h.errors name hname]

end State.AgreeOff

/-! ## Steps -/

section Steps

variable {screen : Screen} {state other : State} (h : state.values = other.values)

include h

theorem ends_congr : ends screen state = ends screen other := by
  funext entry
  exact Step.halts_congr screen h entry.2

theorem unblocked_congr (entries : List (Rule × Step)) :
    unblocked screen state entries = unblocked screen other entries := by
  rw [unblocked_eq, unblocked_eq, ends_congr h]

theorem executed_congr (rules : List Rule) :
    executed screen state rules = executed screen other rules := by
  unfold executed
  rw [ends_congr h, h]

end Steps

theorem mem_executed_of_mem_unblocked {screen : Screen} {state : State} {rules : List Rule}
    {entry : Rule × Step} (h : entry ∈ unblocked screen state (plan state.values rules)) :
    entry ∈ executed screen state rules := by
  rw [unblocked_eq] at h
  rw [executed, upTo_eq_takeWhile_append]
  exact List.mem_append_left _ h

section Errors

variable (spec : Specification) (screen : Screen) (state : State) (key : String)

theorem Step.errorAfter_of_target? {step : Step} (h : (step.target? spec screen).isSome)
    (current : Option String) : step.errorAfter spec screen state key current = none := by
  cases step with
  | validate check => cases h
  | start call => exact if_pos h
  | unsupported => cases h

/-- Where a step navigates, no error there was before counts. -/
theorem foldl_errorAfter_of_target? {entries : List (Rule × Step)}
    (h : ∃ entry ∈ entries, (entry.2.target? spec screen).isSome) (current other : Option String) :
    entries.foldl (fun current entry => entry.2.errorAfter spec screen state key current) current =
      entries.foldl (fun current entry => entry.2.errorAfter spec screen state key current)
        other := by
  induction entries generalizing current other with
  | nil =>
    obtain ⟨_, hmem, _⟩ := h
    cases hmem
  | cons first entries ih =>
    rw [List.foldl_cons, List.foldl_cons]
    cases hfirst : (first.2.target? spec screen).isSome with
    | true =>
      rw [Step.errorAfter_of_target? spec screen state key hfirst,
        Step.errorAfter_of_target? spec screen state key hfirst]
    | false =>
      obtain ⟨entry, hmem, htarget⟩ := h
      rcases List.mem_cons.1 hmem with rfl | hmem
      · rw [hfirst] at htarget
        cases htarget
      · exact ih ⟨entry, hmem, htarget⟩ _ _

end Errors

/-! ## Events -/

section Events

variable {spec : Specification} {screen : Screen} {keys : Set String} {state other : State}
  {event : String} {outcome outcome' : Outcome}

/-- An event comes to the same in all but the errors of the keys, and in these too if it has
navigated. -/
theorem agreeOff_of_settles (h : state.AgreeOff keys other)
    (hsettles : spec.Settles screen state event outcome)
    (hsettles' : spec.Settles screen other event outcome') :
    outcome.state.AgreeOff keys outcome'.state ∧ outcome'.dispatched = outcome.dispatched ∧
      (outcome.navigated = true → outcome.state.AgreeOff ∅ outcome'.state) := by
  have hplan : unblocked screen other (plan other.values (spec.matching screen event)) =
      unblocked screen state (plan state.values (spec.matching screen event)) := by
    rw [unblocked_congr h.values, h.values]
  have hactive : outcome'.state.activeScreen = outcome.state.activeScreen := by
    rw [hsettles'.activeScreen, hsettles.activeScreen, hplan, h.activeScreen]
  have hvalues : outcome'.state.values = outcome.state.values := by
    rw [hsettles'.values, hsettles.values, h.values]
  have hfold : ∀ key, outcome'.state.errors.get? key =
      (executed screen state (spec.matching screen event)).foldl
        (fun current entry => entry.2.errorAfter spec screen state key current)
        (other.errors.get? key) := by
    intro key
    rw [hsettles'.errors, executed_congr h.values]
    simp only [Step.errorAfter_congr spec screen h.values]
  refine ⟨⟨hactive, hvalues, ?_⟩, ?_, fun hnavigated => ⟨hactive, hvalues, ?_⟩⟩
  · intro key hkey
    rw [hfold, hsettles.errors, h.errors key hkey]
  · rw [hsettles'.dispatched, hsettles.dispatched, hplan]
  · intro key _
    obtain ⟨entry, hmem, hleads⟩ := hsettles.navigated.1 hnavigated
    rw [hfold, hsettles.errors]
    exact foldl_errorAfter_of_target? spec screen state key
      ⟨entry, mem_executed_of_mem_unblocked hmem, Step.target?_isSome_iff.2 hleads⟩ _ _

end Events

end ScreenFlow
