import ScreenFlow.Proofs.Event.Chain
import ScreenFlow.Proofs.Lookup

/-!
# The outcome of an event, read off its start

`Specification.Settles` gives every part of an outcome as a function of the specification, the
screen and the state in which the event started: no part of it speaks of a state in between.
`exists_settles`: every event on a screen that is there has such an outcome.

1. `runs_handleEvent`: the event runs the steps of the plan (`Proofs.Event.Chain`).
2. The state after a list of steps, part by part: the last navigation decides the active screen
   (`activeScreen_foldl_advance`), and the error of a key is decided by the steps that touch it
   (`errors_foldl_advance`).
3. A step that ends the chain asks for nothing and leads nowhere (`filterMap_executed`).
-/

namespace ScreenFlow

/-! ## Which rules and steps count -/

/-- The rules that are global or bound to a screen and react to an event, in declaration order. -/
def Specification.matching (spec : Specification) (screen : Screen) (event : String) : List Rule :=
  spec.rules.filter fun rule =>
    (rule.scope = .global ∨ rule.scope = .screen screen.id) ∧ rule.onEvent = event

/-- The step is a check that stops on errors and lists a key of a text field whose value fails. -/
def Step.Blocks (screen : Screen) (state : State) (step : Step) : Prop :=
  ∃ check, step = .validate check ∧ check.stopOnError = true ∧
    ∃ key ∈ check.fields, ∃ field, screen.textField? key = some field ∧
      field.error? (state.value key) ≠ none

theorem Step.halts_iff_blocks {screen : Screen} {state : State} {step : Step} :
    step.halts screen state = true ↔ step.Blocks screen state := by
  unfold Step.Blocks
  cases step with
  | validate check =>
    simp only [Step.halts, FieldCheck.fails, Bool.and_eq_true, List.any_eq_true, Option.any_eq_true,
      Option.isSome_iff_ne_none, Step.validate.injEq, exists_eq_left']
  | start call => simp [Step.halts]
  | unsupported => simp [Step.halts]

instance (screen : Screen) (state : State) (step : Step) : Decidable (step.Blocks screen state) :=
  decidable_of_iff _ Step.halts_iff_blocks

/-- The steps of a plan before the first one that blocks. -/
def unblocked (screen : Screen) (state : State) (entries : List (Rule × Step)) :
    List (Rule × Step) :=
  entries.takeWhile fun entry => ¬ entry.2.Blocks screen state

/-- What an event comes to on a screen, from the state in which it started. -/
structure Specification.Settles (spec : Specification) (screen : Screen) (state : State)
    (event : String) (outcome : Outcome) : Prop where
  matchedRules : outcome.matchedRules = (spec.matching screen event).length
  /-- The chain is ended exactly if a step of the plan blocks. -/
  halted : outcome.halted = true ↔
    ∃ entry ∈ plan state.values (spec.matching screen event), entry.2.Blocks screen state
  /-- Each operation that is asked for before that, for the screen of the event. -/
  dispatched : outcome.dispatched =
    (unblocked screen state (plan state.values (spec.matching screen event))).filterMap fun entry =>
      match entry.2 with
      | .start call => some ⟨screen.id, entry.1.id, call.operation, call.params, call.successEvent,
          call.errorEvent⟩
      | _ => none
  /-- Some success event has a transition that leaves the screen of the event. -/
  navigated : outcome.navigated = true ↔
    ∃ entry ∈ unblocked screen state (plan state.values (spec.matching screen event)),
      ∃ call success, entry.2 = .start call ∧ call.successEvent = some success ∧
        ∃ transition ∈ spec.transitions, transition.event = success ∧ transition.source = screen.id
  /-- The last navigation counts, and each is resolved from the screen of the event. -/
  activeScreen : outcome.state.activeScreen =
    ((unblocked screen state (plan state.values (spec.matching screen event))).filterMap
      fun entry => entry.2.target? spec screen).getLast?.getD state.activeScreen
  values : outcome.state.values = state.values
  /-- Key by key: what the steps that are run leave of the error there was. -/
  errors : ∀ key, outcome.state.errors.get? key =
    (executed screen state (spec.matching screen event)).foldl
      (fun current entry => entry.2.errorAfter spec screen state key current)
      (state.errors.get? key)

/-! ## The state after several steps -/

section States

variable (spec : Specification) (screen : Screen)

theorem activeScreen_foldl_advance (entries : List (Rule × Step)) (state : State) :
    (entries.foldl (fun state entry => entry.2.advance spec screen state) state).activeScreen =
      (entries.filterMap fun entry => entry.2.target? spec screen).getLast?.getD
        state.activeScreen := by
  induction entries generalizing state with
  | nil => rfl
  | cons entry entries ih =>
    rw [List.foldl_cons, ih, Step.activeScreen_advance, List.filterMap_cons]
    cases entry.2.target? spec screen with
    | none => rfl
    | some target =>
      rw [List.getLast?_cons]
      rfl

theorem errors_foldl_advance {start : State} (key : String) (entries : List (Rule × Step))
    {state : State} (h : state.values = start.values) :
    (entries.foldl (fun state entry => entry.2.advance spec screen state) state).errors.get? key =
      entries.foldl (fun current entry => entry.2.errorAfter spec screen start key current)
        (state.errors.get? key) := by
  induction entries generalizing state with
  | nil => rfl
  | cons entry entries ih =>
    rw [List.foldl_cons, ih ((Step.values_advance spec screen state entry.2).trans h),
      Step.errors_advance, Step.errorAfter_congr spec screen h, List.foldl_cons]

end States

/-! ## Steps before the end of the chain -/

theorem unblocked_eq (screen : Screen) (state : State) (entries : List (Rule × Step)) :
    unblocked screen state entries = entries.takeWhile (!ends screen state ·) := by
  unfold unblocked
  congr 1
  funext entry
  rw [← Bool.coe_iff_coe]
  simp [ends, ← Step.halts_iff_blocks]

/-- A part that no step that ends the chain has, is that of the steps before it. -/
theorem filterMap_executed {α : Type} {screen : Screen} {state : State} (rules : List Rule)
    (part : Rule × Step → Option α)
    (h : ∀ entry, ends screen state entry = true → part entry = none) :
    (executed screen state rules).filterMap part =
      (unblocked screen state (plan state.values rules)).filterMap part := by
  rw [executed, upTo_eq_takeWhile_append, List.filterMap_append, unblocked_eq]
  cases hfind : (plan state.values rules).find? (ends screen state) with
  | none => simp
  | some entry => simp [h entry (List.find?_some hfind)]

theorem any_isSome_eq {α β : Type} (f : α → Option β) (xs : List α) :
    (xs.any fun x => (f x).isSome) = !(xs.filterMap f).isEmpty := by
  induction xs with
  | nil => rfl
  | cons x xs ih =>
    rw [List.any_cons, List.filterMap_cons, ih]
    cases f x <;> simp

theorem Step.target?_eq_none_of_halts (spec : Specification) {screen : Screen} {state : State}
    {step : Step} (h : step.halts screen state = true) : step.target? spec screen = none := by
  obtain ⟨check, rfl, _⟩ := Step.halts_iff_blocks.1 h
  rfl

theorem Step.target?_isSome_iff {spec : Specification} {screen : Screen} {step : Step} :
    (step.target? spec screen).isSome ↔
      ∃ call success, step = .start call ∧ call.successEvent = some success ∧
        ∃ transition ∈ spec.transitions, transition.event = success ∧
          transition.source = screen.id := by
  cases step with
  | validate check => simp [Step.target?]
  | unsupported => simp [Step.target?]
  | start call =>
    cases hevent : call.successEvent with
    | none => simp [Step.target?, hevent]
    | some success =>
      rw [Step.target?, hevent, Option.bind_some, Specification.target?, Option.isSome_map,
        Specification.transition?, List.find?_isSome]
      simp only [decide_eq_true_eq]
      constructor
      · rintro ⟨transition, htransition, hleads⟩
        exact ⟨call, success, rfl, hevent, transition, htransition, hleads⟩
      · rintro ⟨other, _, hcall, hsuccess, transition, htransition, hleads⟩
        obtain rfl := Step.start.inj hcall
        obtain rfl := Option.some.inj (hevent.symm.trans hsuccess)
        exact ⟨transition, htransition, hleads⟩

theorem Step.target?_eq_some {spec : Specification} {screen : Screen} {step : Step}
    {target : String} (h : step.target? spec screen = some target) :
    ∃ transition ∈ spec.transitions, target = transition.target := by
  cases step with
  | validate check => cases h
  | unsupported => cases h
  | start call =>
    obtain ⟨success, _, h⟩ := Option.bind_eq_some_iff.1 h
    obtain ⟨transition, htransition, rfl⟩ := Option.map_eq_some_iff.1 h
    exact ⟨transition, List.mem_of_find?_eq_some htransition, rfl⟩

/-! ## Events -/

theorem Specification.rulesFor_eq (spec : Specification) (screen : Screen) (event : String) :
    spec.rulesFor screen.id event = spec.matching screen event := by
  unfold rulesFor matching
  refine List.filter_congr fun rule _ => ?_
  unfold Rule.reactsTo
  rw [← Bool.coe_iff_coe]
  cases rule.scope <;> simp

/-- An outcome as the progress that it ends. -/
def Outcome.progress (outcome : Outcome) : Progress :=
  ⟨outcome.state, outcome.navigated, outcome.dispatched, outcome.log⟩

/-- What handling an event runs. -/
theorem Specification.runs_handleEvent {spec : Specification} {state : State} {screen : Screen}
    (event : String) (h : spec.screen state.activeScreen = .ok screen) :
    ∃ outcome, spec.handleEvent state event = .ok outcome ∧
      Progress.Runs spec screen (.start state) outcome.progress
        (executed screen state (spec.matching screen event)) ∧
      outcome.matchedRules = (spec.matching screen event).length ∧
      outcome.halted =
        (plan state.values (spec.matching screen event)).any (ends screen state) := by
  unfold handleEvent
  rw [h]
  show ∃ outcome, (if (spec.rulesFor screen.id event).isEmpty then _ else _) = _ ∧ _
  rw [rulesFor_eq]
  cases hrules : spec.matching screen event with
  | nil =>
    exact ⟨_, rfl, (Progress.start state).runs_note spec screen [.noRules event screen.id], rfl,
      rfl⟩
  | cons rule rules =>
    obtain ⟨hruns, hhalted⟩ :=
      @runRules_runs spec screen state event (rule :: rules) (.start state) rfl
    exact ⟨_, rfl, hruns, rfl, hhalted⟩

/-- An event on a screen that is there has an outcome, and all of it is settled by the start. -/
theorem Specification.exists_settles {spec : Specification} {state : State} {screen : Screen}
    (event : String) (h : spec.screen state.activeScreen = .ok screen) :
    ∃ outcome, spec.handleEvent state event = .ok outcome ∧
      spec.Settles screen state event outcome := by
  obtain ⟨outcome, houtcome, hruns, hmatched, hhalted⟩ := spec.runs_handleEvent event h
  have htargets := filterMap_executed (spec.matching screen event)
    (fun entry => entry.2.target? spec screen)
    fun entry (hends : ends screen state entry = true) => Step.target?_eq_none_of_halts spec hends
  have hoperations := filterMap_executed (spec.matching screen event)
    (fun entry => entry.2.operation? screen entry.1)
    fun entry (hends : ends screen state entry = true) =>
      Step.operation?_eq_none_of_halts screen hends entry.1
  refine ⟨outcome, houtcome, hmatched, ?_, ?_, ?_, ?_, ?_, ?_⟩
  · rw [hhalted, List.any_eq_true]
    exact exists_congr fun entry => and_congr_right fun _ => Step.halts_iff_blocks
  · have hdispatched : outcome.dispatched = [] ++ _ := hruns.dispatched
    rw [hdispatched, List.nil_append, hoperations]
    congr 1
    funext ⟨rule, step⟩
    cases step <;> rfl
  · have hnavigated : outcome.navigated = (false || _) := hruns.navigated
    rw [hnavigated, Bool.false_or, any_isSome_eq, htargets, ← any_isSome_eq, List.any_eq_true]
    exact exists_congr fun entry => and_congr_right fun _ => Step.target?_isSome_iff
  · have hstate : outcome.state = _ := hruns.state
    rw [hstate, activeScreen_foldl_advance, htargets]
    rfl
  · exact hruns.values
  · intro key
    have hstate : outcome.state = _ := hruns.state
    rw [hstate]
    exact errors_foldl_advance spec screen key _ rfl

/-- **Closed form.** An event on a screen that is there has an outcome, and all of it is settled by
the state in which the event starts. The screen is the active one. -/
theorem handleEvent_settles {spec : Specification} {state : State} {screen : Screen}
    (event : String) (h : spec.screen state.activeScreen = .ok screen) :
    (spec.IndexFits → screen.id = state.activeScreen) ∧
      ∃ outcome, spec.handleEvent state event = .ok outcome ∧
        spec.Settles screen state event outcome :=
  ⟨fun hfits => Specification.id_of_screen_eq_ok hfits h, spec.exists_settles event h⟩

/-- A form whose button asks for an operation that leads away, and then checks an empty field. -/
def Specification.checkedForm : Specification :=
  .unindexed none "form"
    [⟨"form", none, none, .standard, [
      ⟨"name", .textField ⟨none, none, none, .text, true, ⟨none⟩⟩⟩,
      ⟨"save", .button ⟨"Save", none, none, none⟩⟩]⟩,
      ⟨"done", none, none, .standard, []⟩]
    [⟨"leave", .global, "save.click", [], [.start ⟨"store", .empty, some "stored", none⟩]⟩,
      ⟨"check", .screen "form", "save.click", [], [.validate ⟨["name"], none, true⟩]⟩,
      ⟨"late", .global, "save.click", [], [.start ⟨"report", .empty, none, none⟩]⟩]
    [⟨"t", "stored", "form", "done", false⟩]

theorem handleEvent_settles_checkedForm :
    ∃ screen, Specification.checkedForm.screen "form" = .ok screen ∧ screen.id = "form" ∧
      ∃ outcome,
        Specification.checkedForm.handleEvent (.initial "form") "save.click" = .ok outcome ∧
        Specification.checkedForm.Settles screen (.initial "form") "save.click" outcome ∧
        outcome.matchedRules = 3 ∧ outcome.halted = true ∧ outcome.navigated = true := by
  have hscreen : Specification.checkedForm.screen (State.initial "form").activeScreen = .ok _ := rfl
  obtain ⟨hid, outcome, houtcome, hsettles⟩ := handleEvent_settles "save.click" hscreen
  refine ⟨_, hscreen, hid (Specification.indexFits_unindexed _ _ _ _ _), outcome, houtcome,
    hsettles, ?_⟩
  obtain rfl := Except.ok.inj houtcome
  decide

end ScreenFlow
