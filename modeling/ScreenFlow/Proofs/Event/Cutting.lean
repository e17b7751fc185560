import ScreenFlow.Proofs.Event.ClosedForm

/-!
# Rules cut in two

A rule can be cut into two neighbours that have its id, its scope, its event and its guards, the
first one with some of its first steps and the second one with the others; and two such neighbours
can be joined. An event comes to the same either way, but for its reports and for the number of
rules that react (`handleEvent_cut`).

1. Of the rule that a step belongs to, only the id counts when it is run (`runs_map_said_iff`).
2. The guards of the second part are judged when the first part has been run, which may have checked
   fields and navigated. They give the verdict that they gave for the first part, since guards read
   values only: both parts are in the plan that the starting values make, or neither is, and the
   plan has the same steps under the same ids (`map_said_plan_cut`).
3. So the steps up to one that ends the chain are the same, and so is what they come to
   (`executed_of_cut`).
-/

namespace ScreenFlow

/-! ## What is told of a step -/

/-- A rule of which nothing is known but its id. -/
def Rule.named (id : String) : Rule := ⟨id, .global, "", [], []⟩

/-- A step, with no more of its rule than the id. -/
def said (entry : Rule × Step) : Rule × Step := (.named entry.1.id, entry.2)

theorem upTo_map {α β : Type} (f : α → β) (stops : β → Bool) (xs : List α) :
    upTo stops (xs.map f) = (upTo (fun x => stops (f x)) xs).map f := by
  induction xs with
  | nil => rfl
  | cons x xs ih =>
    rw [List.map_cons, upTo, upTo, ih]
    by_cases hx : stops (f x) = true
    · rw [if_pos hx, if_pos hx]
      rfl
    · rw [if_neg hx, if_neg hx]
      rfl

section Said

variable {spec : Specification} {screen : Screen} {state : State}

theorem any_ends_map_said (entries : List (Rule × Step)) :
    (entries.map said).any (ends screen state) = entries.any (ends screen state) := by
  rw [List.any_map]
  rfl

theorem upTo_ends_map_said (entries : List (Rule × Step)) :
    upTo (ends screen state) (entries.map said) = (upTo (ends screen state) entries).map said := by
  rw [upTo_map]
  rfl

/-- The id is all that counts of a rule when its steps are run. -/
theorem Progress.runs_map_said_iff {before after : Progress} {entries : List (Rule × Step)} :
    Progress.Runs spec screen before after (entries.map said) ↔
      Progress.Runs spec screen before after entries := by
  have hfold : (entries.map said).foldl
      (fun state entry => entry.2.advance spec screen state) before.state =
        entries.foldl (fun state entry => entry.2.advance spec screen state) before.state := by
    rw [List.foldl_map]
    rfl
  have hany : ((entries.map said).any fun entry => (entry.2.target? spec screen).isSome) =
      entries.any fun entry => (entry.2.target? spec screen).isSome := by
    rw [List.any_map]
    rfl
  have hasked : ((entries.map said).filterMap fun entry => entry.2.operation? screen entry.1) =
      entries.filterMap fun entry => entry.2.operation? screen entry.1 := by
    rw [List.filterMap_map]
    rfl
  constructor
  · intro h
    exact ⟨hfold ▸ h.state, hany ▸ h.navigated, hasked ▸ h.dispatched⟩
  · intro h
    exact ⟨hfold.symm ▸ h.state, hany.symm ▸ h.navigated, hasked.symm ▸ h.dispatched⟩

end Said

/-- Runs from the same start that run the same steps come to the same. -/
theorem Progress.Runs.unique {spec : Specification} {screen : Screen}
    {before after other : Progress} {entries : List (Rule × Step)}
    (h : Progress.Runs spec screen before after entries)
    (hother : Progress.Runs spec screen before other entries) :
    other.state = after.state ∧ other.navigated = after.navigated ∧
      other.dispatched = after.dispatched := by
  refine ⟨?_, ?_, ?_⟩
  · rw [hother.state, h.state]
  · rw [hother.navigated, h.navigated]
  · rw [hother.dispatched, h.dispatched]

/-! ## Cuts -/

/-- The rule with other steps. -/
def Rule.withSteps (rule : Rule) (steps : List Step) : Rule := { rule with steps }

/-- In place of a rule, `cut` has two: one with its first steps, and right after it one with the
others. -/
def Specification.Cut (spec cut : Specification) (rule : Rule) : Prop :=
  ∃ earlier later first rest, rule.steps = first ++ rest ∧
    spec.rules = earlier ++ rule :: later ∧
    cut = { spec with
      rules := earlier ++ rule.withSteps first :: rule.withSteps rest :: later }

/-- The rule reacts to an event on a screen. -/
def Rule.Reacts (rule : Rule) (screen : Screen) (event : String) : Prop :=
  (rule.scope = .global ∨ rule.scope = .screen screen.id) ∧ rule.onEvent = event

instance (rule : Rule) (screen : Screen) (event : String) : Decidable (rule.Reacts screen event) :=
  inferInstanceAs (Decidable (_ ∧ _))

theorem plan_append (values : Bindings String) (rules later : List Rule) :
    plan values (rules ++ later) = plan values rules ++ plan values later := by
  unfold plan
  rw [List.filter_append, List.flatMap_append]

/-- Both parts of a rule are run or none is, and their steps are those of the rule. -/
theorem map_said_plan_cut {rule : Rule} {first rest : List Step} (h : rule.steps = first ++ rest)
    (values : Bindings String) :
    (plan values [rule.withSteps first, rule.withSteps rest]).map said =
      (plan values [rule]).map said := by
  have hguards : ∀ steps, guardsHold (rule.withSteps steps).guards values =
      guardsHold rule.guards values := fun _ => rfl
  cases hholds : guardsHold rule.guards values with
  | false =>
    rw [plan_cons_of_not_holds _ ((hguards _).trans hholds),
      plan_cons_of_not_holds _ ((hguards _).trans hholds), plan_cons_of_not_holds _ hholds]
  | true =>
    rw [plan_cons_of_holds _ ((hguards _).trans hholds),
      plan_cons_of_holds _ ((hguards _).trans hholds), plan_cons_of_holds _ hholds, h]
    simp [plan, said, Rule.withSteps, Function.comp_def]

namespace Specification

/-- The rules that react: those around the cut, and between them the rule or its parts. -/
theorem exists_matching_cut {spec cut : Specification} {rule : Rule} (h : spec.Cut cut rule)
    (screen : Screen) (event : String) :
    ∃ earlier later first rest, rule.steps = first ++ rest ∧
      spec.matching screen event =
        earlier ++ (if rule.Reacts screen event then [rule] else []) ++ later ∧
      cut.matching screen event =
        earlier ++ (if rule.Reacts screen event
          then [rule.withSteps first, rule.withSteps rest] else []) ++ later := by
  obtain ⟨earlier, later, first, rest, hsteps, hrules, rfl⟩ := h
  have hreacts : ∀ steps, (rule.withSteps steps).Reacts screen event ↔
      rule.Reacts screen event := fun _ => Iff.rfl
  refine ⟨earlier.filter fun other => other.Reacts screen event,
    later.filter fun other => other.Reacts screen event, first, rest, hsteps, ?_, ?_⟩
  · show spec.rules.filter (fun other => other.Reacts screen event) = _
    rw [hrules, List.filter_append, List.filter_cons]
    by_cases hrule : rule.Reacts screen event <;> simp [hrule]
  · show List.filter (fun other => other.Reacts screen event) (earlier ++ _ :: _ :: later) = _
    rw [List.filter_append, List.filter_cons, List.filter_cons]
    by_cases hrule : rule.Reacts screen event <;> simp [hreacts, hrule]

/-- The plan has the same steps, under the same ids. -/
theorem map_said_plan_of_cut {spec cut : Specification} {rule : Rule} (h : spec.Cut cut rule)
    (screen : Screen) (event : String) (values : Bindings String) :
    (plan values (cut.matching screen event)).map said =
      (plan values (spec.matching screen event)).map said := by
  obtain ⟨earlier, later, first, rest, hsteps, hspec, hcut⟩ := exists_matching_cut h screen event
  rw [hspec, hcut]
  simp only [plan_append, List.map_append]
  by_cases hrule : rule.Reacts screen event
  · rw [if_pos hrule, if_pos hrule, map_said_plan_cut hsteps]
  · rw [if_neg hrule, if_neg hrule]

/-- One more rule reacts, if the rule that is cut does. -/
theorem length_matching_cut {spec cut : Specification} {rule : Rule} (h : spec.Cut cut rule)
    (screen : Screen) (event : String) :
    (cut.matching screen event).length =
      (spec.matching screen event).length + if rule.Reacts screen event then 1 else 0 := by
  obtain ⟨earlier, later, first, rest, _, hspec, hcut⟩ := exists_matching_cut h screen event
  rw [hspec, hcut]
  simp only [List.length_append]
  by_cases hrule : rule.Reacts screen event
  · simp only [if_pos hrule, List.length_cons, List.length_nil]
    omega
  · simp only [if_neg hrule, List.length_nil]
    omega

/-- Up to the end of the chain, too. -/
theorem executed_of_cut {spec cut : Specification} {rule : Rule} (h : spec.Cut cut rule)
    (screen : Screen) (event : String) (state : State) :
    (executed screen state (cut.matching screen event)).map said =
      (executed screen state (spec.matching screen event)).map said := by
  unfold executed
  rw [← upTo_ends_map_said, ← upTo_ends_map_said, map_said_plan_of_cut h]

theorem any_ends_of_cut {spec cut : Specification} {rule : Rule} (h : spec.Cut cut rule)
    (screen : Screen) (event : String) (state : State) :
    (plan state.values (cut.matching screen event)).any (ends screen state) =
      (plan state.values (spec.matching screen event)).any (ends screen state) := by
  rw [← any_ends_map_said, map_said_plan_of_cut h, any_ends_map_said]

end Specification

/-- **Rules cut in two.** Where a rule is cut in two, every event misses the same screen, or comes
to the same state, navigations, end of the chain and operations; one more rule reacts exactly if
the rule does. -/
theorem handleEvent_cut {spec cut : Specification} {rule : Rule} (h : spec.Cut cut rule)
    (state : State) (event : String) :
    (∃ missing, spec.handleEvent state event = .error missing ∧
        cut.handleEvent state event = .error missing) ∨
      ∃ screen outcome other, spec.screen state.activeScreen = .ok screen ∧
        spec.handleEvent state event = .ok outcome ∧ cut.handleEvent state event = .ok other ∧
        other.state = outcome.state ∧ other.navigated = outcome.navigated ∧
        other.halted = outcome.halted ∧ other.dispatched = outcome.dispatched ∧
        other.matchedRules =
          outcome.matchedRules + if rule.Reacts screen event then 1 else 0 := by
  have hsame : cut.screen state.activeScreen = spec.screen state.activeScreen := by
    obtain ⟨_, _, _, _, _, _, rfl⟩ := h
    rfl
  cases hscreen : spec.screen state.activeScreen with
  | error missing =>
    refine Or.inl ⟨missing, ?_, ?_⟩
    · unfold Specification.handleEvent
      rw [hscreen]
      rfl
    · unfold Specification.handleEvent
      rw [hsame, hscreen]
      rfl
  | ok screen =>
    obtain ⟨outcome, houtcome, hruns, hmatched, hhalted⟩ := spec.runs_handleEvent event hscreen
    obtain ⟨other, hother, hruns', hmatched', hhalted'⟩ :=
      cut.runs_handleEvent event (hsame.trans hscreen)
    have hcutRuns : Progress.Runs spec screen (.start state) other.progress
        (executed screen state (cut.matching screen event)) := by
      obtain ⟨_, _, _, _, _, _, rfl⟩ := h
      exact ⟨hruns'.state, hruns'.navigated, hruns'.dispatched⟩
    rw [← Progress.runs_map_said_iff, Specification.executed_of_cut h,
      Progress.runs_map_said_iff] at hcutRuns
    obtain ⟨hstate, hnavigated, hdispatched⟩ := hruns.unique hcutRuns
    refine Or.inr ⟨screen, outcome, other, rfl, houtcome, hother, hstate, hnavigated, ?_,
      hdispatched, ?_⟩
    · rw [hhalted, hhalted', Specification.any_ends_of_cut h]
    · rw [hmatched, hmatched', Specification.length_matching_cut h]

/-- A rule that leads away, then checks an empty field, and would then report. -/
def Rule.busy : Rule :=
  ⟨"leave", .global, "save.click", [], [.start ⟨"store", .empty, some "stored", none⟩,
    .validate ⟨["name"], none, true⟩, .start ⟨"report", .empty, none, none⟩]⟩

/-- The form with that rule alone. -/
def Specification.busyForm : Specification :=
  { Specification.checkedForm with rules := [.busy] }

/-- The form with the rule cut in two after the step that leads away. -/
def Specification.cutForm : Specification :=
  { Specification.checkedForm with
    rules := [Rule.busy.withSteps (Rule.busy.steps.take 1),
      Rule.busy.withSteps (Rule.busy.steps.drop 1)] }

theorem handleEvent_cut_busyForm :
    ∃ outcome other, Specification.busyForm.Cut .cutForm .busy ∧
      Specification.busyForm.handleEvent (.initial "form") "save.click" = .ok outcome ∧
      Specification.cutForm.handleEvent (.initial "form") "save.click" = .ok other ∧
      other.state = outcome.state ∧ other.navigated = outcome.navigated ∧
      other.halted = outcome.halted ∧ other.dispatched = outcome.dispatched ∧
      outcome.matchedRules = 1 ∧ other.matchedRules = 2 ∧ outcome.navigated = true ∧
      outcome.halted = true := by
  have hcut : Specification.busyForm.Cut .cutForm .busy :=
    ⟨[], [], Rule.busy.steps.take 1, Rule.busy.steps.drop 1, rfl, rfl, rfl⟩
  rcases handleEvent_cut hcut (.initial "form") "save.click" with
    ⟨missing, hmissing, _⟩ | ⟨screen, outcome, other, _, houtcome, hother, hstate, hnavigated,
      hhalted, hdispatched, _⟩
  · cases hmissing
  · refine ⟨outcome, other, hcut, houtcome, hother, hstate, hnavigated, hhalted, hdispatched, ?_⟩
    obtain rfl := Except.ok.inj houtcome
    obtain rfl := Except.ok.inj hother
    decide

end ScreenFlow
