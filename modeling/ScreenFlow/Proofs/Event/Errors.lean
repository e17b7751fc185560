import ScreenFlow.Proofs.Event.ErrorsUnread
import ScreenFlow.Proofs.Event.Trace

/-!
# Errors after an event

The errors that an event leaves are told, key by key, by the steps that it has run
(`Specification.LeavesErrors`). A navigation clears all errors, so only the checks after the last
one count; and a check judges the value that the key had when the event started, so all checks of a
key come to the same verdict, and neither their number nor the other keys matter.

1. Without a navigation, the steps leave the verdict under a key that one of them lists and a text
   field is bound to, and what was there under any other (`foldl_errorAfter_of_stays`).
2. A navigation leaves nothing, whatever was run before it (`foldl_errorAfter_of_leads`).
3. If some step navigates there is a last one, after which no step does (`exists_last`).
-/

namespace ScreenFlow

/-! ## Checks and navigations -/

/-- The step is a check that lists a key. -/
def Step.Lists (key : String) (step : Step) : Prop :=
  ∃ check, step = .validate check ∧ key ∈ check.fields

instance (key : String) (step : Step) : Decidable (step.Lists key) :=
  match step with
  | .validate check => decidable_of_iff (key ∈ check.fields) (by simp [Step.Lists])
  | .start _ | .unsupported => isFalse (by simp [Step.Lists])

/-- The step asks for an operation whose success event has a transition that leaves the screen. -/
def Step.Leads (spec : Specification) (screen : Screen) (step : Step) : Prop :=
  ∃ call success, step = .start call ∧ call.successEvent = some success ∧
    ∃ transition ∈ spec.transitions, transition.event = success ∧ transition.source = screen.id

/-- The error of a key after steps that check fields: the verdict on the value of the key, if one
of them lists the key and a text field is bound to it, and else the error that was there. -/
def Screen.errorAfter (screen : Screen) (state : State) (entries : List (Rule × Step))
    (key : String) (current : Option String) : Option String :=
  match screen.textField? key with
  | some field =>
    if ∃ entry ∈ entries, entry.2.Lists key then field.error? (state.value key) else current
  | none => current

/-- The errors that steps leave which are run on a screen, one after another, from a state. -/
inductive Specification.LeavesErrors (spec : Specification) (screen : Screen) (state : State)
    (entries : List (Rule × Step)) (errors : Bindings String) : Prop
  /-- After the last navigation there is no error but those of later checks. -/
  | moved (earlier : List (Rule × Step)) (last : Rule × Step) (later : List (Rule × Step))
      (parts : entries = earlier ++ last :: later) (leads : last.2.Leads spec screen)
      (stays : ∀ entry ∈ later, ¬ entry.2.Leads spec screen)
      (leaves : ∀ key, errors.get? key = screen.errorAfter state later key none)
  /-- Without a navigation an error stays until its key is checked. -/
  | stayed (stays : ∀ entry ∈ entries, ¬ entry.2.Leads spec screen)
      (leaves : ∀ key,
        errors.get? key = screen.errorAfter state entries key (state.errors.get? key))

/-! ## One step -/

section Steps

variable {spec : Specification} {screen : Screen} (state : State) (key : String)

theorem Step.errorAfter_of_leads {step : Step} (h : step.Leads spec screen)
    (current : Option String) : step.errorAfter spec screen state key current = none :=
  Step.errorAfter_of_target? spec screen state key (Step.target?_isSome_iff.2 h) current

/-- A step that does not navigate only touches keys that it lists. -/
theorem Step.errorAfter_of_stays {step : Step} (h : ¬ step.Leads spec screen)
    (current : Option String) : step.errorAfter spec screen state key current =
      match screen.textField? key with
      | some field => if step.Lists key then field.error? (state.value key) else current
      | none => current := by
  unfold Step.errorAfter
  cases step with
  | validate check =>
    have hlists : (Step.validate check).Lists key ↔ key ∈ check.fields := by simp [Step.Lists]
    simp only [hlists]
    cases screen.textField? key <;> simp
  | start call =>
    have hstays : ¬ ((Step.start call).target? spec screen).isSome :=
      fun htarget => h (Step.target?_isSome_iff.1 htarget)
    have hlists : ¬ (Step.start call).Lists key := by simp [Step.Lists]
    simp only [hstays, hlists]
    cases screen.textField? key <;> simp
  | unsupported =>
    have hlists : ¬ Step.unsupported.Lists key := by simp [Step.Lists]
    simp only [hlists]
    cases screen.textField? key <;> simp

/-! ## Several steps -/

/-- Steps that do not navigate. -/
theorem foldl_errorAfter_of_stays {entries : List (Rule × Step)}
    (h : ∀ entry ∈ entries, ¬ entry.2.Leads spec screen) (current : Option String) :
    entries.foldl (fun current entry => entry.2.errorAfter spec screen state key current) current =
      screen.errorAfter state entries key current := by
  induction entries generalizing current with
  | nil =>
    unfold Screen.errorAfter
    cases screen.textField? key <;> simp
  | cons first entries ih =>
    obtain ⟨hfirst, hentries⟩ := List.forall_mem_cons.1 h
    rw [List.foldl_cons, ih hentries, Step.errorAfter_of_stays state key hfirst]
    unfold Screen.errorAfter
    cases screen.textField? key with
    | none => rfl
    | some field =>
      simp only [List.mem_cons, exists_eq_or_imp]
      -- whichever step lists the key, the verdict is the same
      by_cases hlists : first.2.Lists key
      · rw [if_pos hlists, if_pos (Or.inl hlists), ite_self]
      · rw [if_neg hlists]
        simp only [hlists, false_or]

/-- Steps of which one navigates, and none after it. -/
theorem foldl_errorAfter_of_leads (earlier : List (Rule × Step)) {last : Rule × Step}
    {later : List (Rule × Step)} (hleads : last.2.Leads spec screen)
    (hstays : ∀ entry ∈ later, ¬ entry.2.Leads spec screen) (current : Option String) :
    (earlier ++ last :: later).foldl
        (fun current entry => entry.2.errorAfter spec screen state key current) current =
      screen.errorAfter state later key none := by
  rw [List.foldl_append, List.foldl_cons, Step.errorAfter_of_leads state key hleads,
    foldl_errorAfter_of_stays state key hstays]

end Steps

/-! ## Events -/

/-- A run of steps reports a navigation exactly if one of them navigates. -/
theorem navigated_iff_of_runs {spec : Specification} {screen : Screen} {state : State}
    {after : Progress} {entries : List (Rule × Step)}
    (h : Progress.Runs spec screen (.start state) after entries) :
    after.navigated = true ↔ ∃ entry ∈ entries, entry.2.Leads spec screen := by
  have hnavigated : after.navigated = (false || _) := h.navigated
  rw [hnavigated, Bool.false_or, List.any_eq_true]
  simp only [Step.target?_isSome_iff, Step.Leads]

/-- What a run of steps leaves. -/
theorem leavesErrors_of_runs {spec : Specification} {screen : Screen} {before after : Progress}
    {entries : List (Rule × Step)} (h : Progress.Runs spec screen before after entries) :
    spec.LeavesErrors screen before.state entries after.state.errors := by
  have hfold : ∀ key, after.state.errors.get? key =
      entries.foldl (fun current entry => entry.2.errorAfter spec screen before.state key current)
        (before.state.errors.get? key) := by
    intro key
    rw [h.state]
    exact errors_foldl_advance spec screen key entries rfl
  by_cases hleads : ∃ entry ∈ entries, entry.2.Leads spec screen
  · obtain ⟨earlier, last, later, hparts, hlast, hlater⟩ := exists_last hleads
    refine .moved earlier last later hparts hlast hlater fun key => ?_
    rw [hfold, hparts, foldl_errorAfter_of_leads before.state key earlier hlast hlater]
  · have hstays : ∀ entry ∈ entries, ¬ entry.2.Leads spec screen :=
      fun entry hmem hentry => hleads ⟨entry, hmem, hentry⟩
    refine .stayed hstays fun key => ?_
    rw [hfold, foldl_errorAfter_of_stays before.state key hstays]

/-- **Errors after an event.** An event on a screen that is there has an outcome. It reports a
navigation exactly if a step that it has run navigates, and the errors that it leaves are told by
those steps and by the values with which it started. -/
theorem handleEvent_leavesErrors {spec : Specification} {state : State} {screen : Screen}
    (event : String) (h : spec.screen state.activeScreen = .ok screen) :
    ∃ outcome, spec.handleEvent state event = .ok outcome ∧
      (outcome.navigated = true ↔
        ∃ entry ∈ spec.trace state event, entry.2.Leads spec screen) ∧
      spec.LeavesErrors screen state (spec.trace state event) outcome.state.errors := by
  obtain ⟨outcome, houtcome, hruns⟩ := spec.runs_trace event h
  exact ⟨outcome, houtcome, navigated_iff_of_runs hruns, leavesErrors_of_runs hruns⟩

/-- A form with errors under the key of its field and under another one. -/
def State.staleForm : State := ⟨"form", .empty, .ofList [("name", "Old"), ("note", "Old")]⟩

/-- The check comes after the navigation and ends the chain; its verdict is the only error left. -/
theorem handleEvent_leavesErrors_staleForm :
    ∃ screen outcome, Specification.checkedForm.screen "form" = .ok screen ∧
      Specification.checkedForm.handleEvent .staleForm "save.click" = .ok outcome ∧
      Specification.checkedForm.LeavesErrors screen .staleForm
        (Specification.checkedForm.trace .staleForm "save.click") outcome.state.errors ∧
      outcome.navigated = true ∧ outcome.halted = true ∧
      outcome.state.errors.get? "name" = some Violation.required.message ∧
      outcome.state.errors.get? "note" = none := by
  have hscreen : Specification.checkedForm.screen State.staleForm.activeScreen = .ok _ := rfl
  obtain ⟨outcome, houtcome, _, hleaves⟩ := handleEvent_leavesErrors "save.click" hscreen
  refine ⟨_, outcome, hscreen, houtcome, hleaves, ?_⟩
  obtain rfl := Except.ok.inj houtcome
  decide

end ScreenFlow
