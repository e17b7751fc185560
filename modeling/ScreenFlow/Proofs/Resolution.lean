import Mathlib.Data.List.Infix
import ScreenFlow.Proofs.Checks
import ScreenFlow.Specification.Resolution

/-!
# What resolution accepts and refuses

`Document.WellFormed` says what a document needs, `Document.violations` lists all that is wrong with
one in the order of the checks, and `Document.LocksTo` says what a specification takes over from its
document. `resolve_iff`: resolution succeeds exactly on well-formed documents, with such a
specification, and fails exactly with the first violation.

1. Each check fails with the first violation of its own part (`failsFirst_checkIds` and its like),
   and so does their sequence (`FailsFirst.bind`).
2. There is no violation exactly if the document is well-formed (`violations_eq_nil_iff`).
3. What the checks let through is locked entry by entry (`locksTo_of_lockRule`).
-/

namespace ScreenFlow

/-! ## Entries that stand in a list before -/

/-- Each entry of a list with the entries before it. -/
def withEarlier {α : Type} (xs : List α) : List (α × List α) := xs.zip xs.inits

theorem withEarlier_cons {α : Type} (x : α) (xs : List α) :
    withEarlier (x :: xs) =
      (x, []) :: (withEarlier xs).map fun entry => (entry.1, x :: entry.2) := by
  unfold withEarlier
  rw [List.inits_cons, List.zip_cons_cons, List.zip_map_right]
  rfl

theorem map_fst_withEarlier {α : Type} (xs : List α) : (withEarlier xs).map Prod.fst = xs := by
  induction xs with
  | nil => rfl
  | cons x xs ih =>
    rw [withEarlier_cons, List.map_cons, List.map_map]
    exact congrArg (x :: ·) ih

/-- A list has no entry twice if none stands in it before. -/
theorem nodup_map_iff_withEarlier {α β : Type} (f : α → β) (xs : List α) :
    (xs.map f).Nodup ↔ ∀ entry ∈ withEarlier xs, f entry.1 ∉ entry.2.map f := by
  induction xs with
  | nil => simp [withEarlier]
  | cons x xs ih =>
    rw [List.map_cons, List.nodup_cons, ih, withEarlier_cons, List.forall_mem_cons,
      List.forall_mem_map]
    have hmem : f x ∉ xs.map f ↔ ∀ entry ∈ withEarlier xs, f entry.1 ≠ f x := by
      conv_lhs => rw [← map_fst_withEarlier xs]
      simp only [List.mem_map, not_exists, not_and, forall_exists_index, and_imp,
        forall_apply_eq_imp_iff₂]
    rw [hmem]
    simp only [List.map_nil, List.not_mem_nil, not_false_eq_true, true_and, List.map_cons,
      List.mem_cons, not_or]
    exact ⟨fun h entry hentry => ⟨h.1 entry hentry, h.2 entry hentry⟩,
      fun h => ⟨fun entry hentry => (h entry hentry).1, fun entry hentry => (h entry hentry).2⟩⟩

/-- The entries of a list that stand in it before, in order. -/
def repeats (ids : List String) : List String :=
  ((withEarlier ids).filter fun entry => entry.1 ∈ entry.2).map Prod.fst

theorem repeats_eq_nil_iff (ids : List String) : repeats ids = [] ↔ ids.Nodup := by
  have h := nodup_map_iff_withEarlier id ids
  rw [List.map_id] at h
  rw [h, repeats, List.map_eq_nil_iff, List.filter_eq_nil_iff]
  simp only [decide_eq_true_eq, id_eq, List.map_id]

theorem firstRepeated?_eq (seen ids : List String) :
    firstRepeated? seen ids =
      (((withEarlier ids).filter fun entry =>
        entry.1 ∈ seen ∨ entry.1 ∈ entry.2).map Prod.fst).head? := by
  induction ids generalizing seen with
  | nil => rfl
  | cons id ids ih =>
    rw [firstRepeated?, withEarlier_cons]
    by_cases h : id ∈ seen
    · rw [if_pos h, List.filter_cons_of_pos (by simpa using h)]
      rfl
    · rw [if_neg h, ih, List.filter_cons_of_neg (by simpa using h), List.filter_map, List.map_map]
      have hseen : ∀ entry : String × List String,
          decide (entry.1 ∈ id :: seen ∨ entry.1 ∈ entry.2) =
            decide (entry.1 ∈ seen ∨ entry.1 ∈ id :: entry.2) := by
        intro entry
        rw [decide_eq_decide, List.mem_cons, List.mem_cons]
        tauto
      rw [List.filter_congr fun entry _ => hseen entry]
      rfl

theorem firstRepeated?_nil (ids : List String) : firstRepeated? [] ids = (repeats ids).head? := by
  simp [firstRepeated?_eq, repeats]

/-- What a rule keeps when it is locked: all but its scope, which only counts if it is a screen. -/
structure AuthoredRule.LocksTo (authored : AuthoredRule) (rule : Rule) : Prop where
  id : rule.id = authored.id
  scope : (authored.scope ≠ some .screen ∧ rule.scope = .global) ∨
    ∃ screen, authored.scope = some .screen ∧ authored.screenId = some screen ∧
      rule.scope = .screen screen
  onEvent : rule.onEvent = authored.onEvent
  guards : rule.guards = authored.guards
  steps : rule.steps = authored.steps

namespace Document

/-! ## What is wrong with a document -/

/-- The screen that a document starts on: the override, else the login screen, else the first. -/
def entry? (document : Document) (initial : Option String) : Option String :=
  match initial, document.operational with
  | some screen, _ => some screen
  | none, some ⟨some ⟨some login, _⟩⟩ => some login
  | none, _ => document.screens.head?.map Screen.id

/-- What is wrong with the ids of a screen, when the ids in `seen` are taken. -/
def screenViolations (seen : List String) (screen : Screen) : List ResolutionError :=
  (if screen.id ∈ seen then [.duplicateScreen screen.id] else []) ++
    (repeats (screen.components.map Component.id)).map (.duplicateComponent screen.id)

/-- What is wrong with the screen to start on. -/
def entryViolations (document : Document) (initial : Option String) : List ResolutionError :=
  match document.entry? initial with
  | none => [.noInitialScreen]
  | some screen =>
    if screen ∈ document.screens.map Screen.id then [] else [.initialScreenNotFound screen]

/-- The ends of a transition that are not there. -/
def transitionViolations (screens : List String) (transition : Transition) : List ResolutionError :=
  ([transition.source, transition.target].filter (· ∉ screens)).map
    (.invalidTransition transition.id)

/-- What is wrong with the scope of a rule. -/
def ruleViolations (screens : List String) (rule : AuthoredRule) : List ResolutionError :=
  match rule.scope, rule.screenId with
  | some .screen, none => [.missingRuleScreen rule.id]
  | some .screen, some screen =>
    if screen ∈ screens then [] else [.invalidRuleScreen rule.id screen]
  | _, _ => []

/-- All that is wrong with a document, in the order of the checks: screen by screen its id and then
the ids of its components, the screen to start on, transition by transition its source and its
target, rule by rule. -/
def violations (document : Document) (initial : Option String) : List ResolutionError :=
  let screens := document.screens.map Screen.id
  (withEarlier document.screens).flatMap
      (fun entry => screenViolations (entry.2.map Screen.id) entry.1) ++
    document.entryViolations initial ++
    document.transitions.flatMap (transitionViolations screens) ++
    document.rules.flatMap (ruleViolations screens)

/-- What a document needs to be resolved. -/
structure WellFormed (document : Document) (initial : Option String) : Prop where
  screens_distinct : (document.screens.map Screen.id).Nodup
  components_distinct : ∀ screen ∈ document.screens, (screen.components.map Component.id).Nodup
  entry_exists : ∃ screen ∈ document.screens, document.entry? initial = some screen.id
  transitions_exist : ∀ transition ∈ document.transitions,
    transition.source ∈ document.screens.map Screen.id ∧
      transition.target ∈ document.screens.map Screen.id
  rules_exist : ∀ rule ∈ document.rules, rule.scope = some .screen →
    ∃ screen ∈ document.screens, rule.screenId = some screen.id

/-- What a specification takes over from its document: all but the rules as it stands, and the rules
one by one. -/
structure LocksTo (document : Document) (initial : Option String) (spec : Specification) :
    Prop where
  info : spec.info = document.info
  initialScreen : document.entry? initial = some spec.initialScreen
  screens : spec.screens = document.screens
  rules : List.Forall₂ AuthoredRule.LocksTo document.rules spec.rules
  transitions : spec.transitions = document.transitions
  index : spec = spec.reindex

/-! ## The checks one by one -/

theorem entry?_eq (document : Document) (initial : Option String) :
    (initial <|> document.initialScreen?) = document.entry? initial := by
  unfold entry? initialScreen?
  cases initial with
  | some screen => rfl
  | none =>
    rcases document.operational with _ | ⟨_ | ⟨_ | login, _⟩⟩ <;> rfl

theorem screenViolations_congr {seen taken : List String} (h : ∀ id, id ∈ seen ↔ id ∈ taken)
    (screen : Screen) : screenViolations seen screen = screenViolations taken screen := by
  unfold screenViolations
  simp only [h]

theorem failsFirst_checkIds (seen : List String) (screens : List Screen) :
    FailsFirst (checkIds seen screens)
      ((withEarlier screens).flatMap fun entry =>
        screenViolations (seen ++ entry.2.map Screen.id) entry.1) := by
  induction screens generalizing seen with
  | nil => exact FailsFirst.ok ()
  | cons screen screens ih =>
    rw [checkIds, withEarlier_cons, List.flatMap_cons, List.map_nil, List.append_nil,
      List.flatMap_map]
    by_cases hseen : screen.id ∈ seen
    · rw [if_pos hseen, screenViolations, if_pos hseen]
      exact FailsFirst.error _ _
    · rw [if_neg hseen, screenViolations, if_neg hseen, List.nil_append, firstRepeated?_nil]
      cases hrepeats : repeats (screen.components.map Component.id) with
      | cons component later => exact FailsFirst.error _ _
      | nil =>
        -- the ids seen so far are those of `seen` and of the screens before, in another order
        have hlater : ((withEarlier screens).flatMap fun entry =>
            screenViolations (seen ++ (screen :: entry.2).map Screen.id) entry.1) =
            (withEarlier screens).flatMap fun entry =>
              screenViolations ((screen.id :: seen) ++ entry.2.map Screen.id) entry.1 := by
          congr 1
          funext entry
          refine screenViolations_congr (fun id => ?_) entry.1
          simp only [List.map_cons, List.mem_append, List.mem_cons]
          tauto
        show FailsFirst (checkIds (screen.id :: seen) screens) ([] ++ _)
        rw [List.nil_append, hlater]
        exact ih (screen.id :: seen)

theorem failsFirst_lockInitial (document : Document) (initial : Option String) :
    FailsFirst (document.lockInitial initial) (document.entryViolations initial) := by
  unfold lockInitial entryViolations
  rw [entry?_eq]
  cases document.entry? initial with
  | none => exact FailsFirst.error _ _
  | some screen =>
    by_cases h : screen ∈ document.screens.map Screen.id
    · simp only [if_pos h]
      exact FailsFirst.ok screen
    · simp only [if_neg h]
      exact FailsFirst.error _ _

theorem failsFirst_checkTransitions (screens : List String) (transitions : List Transition) :
    FailsFirst (checkTransitions screens transitions)
      (transitions.flatMap (transitionViolations screens)) := by
  induction transitions with
  | nil => exact FailsFirst.ok ()
  | cons transition transitions ih =>
    rw [checkTransitions, List.flatMap_cons, transitionViolations]
    by_cases hsource : transition.source ∈ screens
    · rw [if_neg (not_not_intro hsource), List.filter_cons_of_neg (by simpa using hsource)]
      by_cases htarget : transition.target ∈ screens
      · rw [if_neg (not_not_intro htarget), List.filter_cons_of_neg (by simpa using htarget)]
        exact ih
      · rw [if_pos htarget, List.filter_cons_of_pos (by simpa using htarget)]
        exact FailsFirst.error _ _
    · rw [if_pos hsource, List.filter_cons_of_pos (by simpa using hsource)]
      exact FailsFirst.error _ _

theorem failsFirst_lockRule (screens : List String) (rule : AuthoredRule) :
    FailsFirst (lockRule screens rule) (ruleViolations screens rule) := by
  have hscope : FailsFirst (lockScope screens rule) (ruleViolations screens rule) := by
    unfold lockScope ruleViolations
    rcases rule.scope with _ | _ | _
    · exact FailsFirst.ok _
    · exact FailsFirst.ok _
    · rcases rule.screenId with _ | screen
      · exact FailsFirst.error _ _
      · by_cases h : screen ∈ screens
        · simp only [if_pos h]
          exact FailsFirst.ok _
        · simp only [if_neg h]
          exact FailsFirst.error _ _
  rw [← List.append_nil (ruleViolations screens rule)]
  exact hscope.bind fun scope _ => FailsFirst.ok _

theorem failsFirst_resolve (document : Document) (initial : Option String) :
    FailsFirst (document.resolve initial) (document.violations initial) := by
  have hids := failsFirst_checkIds [] document.screens
  simp only [List.nil_append] at hids
  have hstructure : FailsFirst (document.checkStructure initial) _ :=
    hids.bind fun _ _ => (document.failsFirst_lockInitial initial).bind fun screen _ =>
      (failsFirst_checkTransitions (document.screens.map Screen.id) document.transitions).bind
        fun _ _ => FailsFirst.ok screen
  have hresolve : FailsFirst (document.resolve initial) _ :=
    hstructure.bind fun screen _ =>
      (FailsFirst.mapM (failsFirst_lockRule (document.screens.map Screen.id)) document.rules).bind
        fun rules _ => FailsFirst.ok _
  simpa only [violations, List.append_nil, List.append_assoc] using hresolve

/-! ## Well-formed documents -/

theorem screenViolations_eq_nil_iff (seen : List String) (screen : Screen) :
    screenViolations seen screen = [] ↔
      screen.id ∉ seen ∧ (screen.components.map Component.id).Nodup := by
  rw [screenViolations, List.append_eq_nil_iff, List.map_eq_nil_iff, repeats_eq_nil_iff]
  simp

theorem entryViolations_eq_nil_iff (document : Document) (initial : Option String) :
    document.entryViolations initial = [] ↔
      ∃ screen ∈ document.screens, document.entry? initial = some screen.id := by
  unfold entryViolations
  cases document.entry? initial with
  | none => simp
  | some id =>
    by_cases h : id ∈ document.screens.map Screen.id
    · obtain ⟨screen, hmem, rfl⟩ := List.mem_map.1 h
      simp only [if_pos h, true_iff]
      exact ⟨screen, hmem, rfl⟩
    · simp only [if_neg h, reduceCtorEq, false_iff, not_exists, not_and, Option.some.injEq]
      intro screen hmem hid
      exact h (hid ▸ List.mem_map_of_mem hmem)

theorem transitionViolations_eq_nil_iff (screens : List String) (transition : Transition) :
    transitionViolations screens transition = [] ↔
      transition.source ∈ screens ∧ transition.target ∈ screens := by
  rw [transitionViolations, List.map_eq_nil_iff, List.filter_eq_nil_iff]
  simp

theorem ruleViolations_eq_nil_iff (screens : List String) (rule : AuthoredRule) :
    ruleViolations screens rule = [] ↔
      (rule.scope = some .screen → ∃ screen ∈ screens, rule.screenId = some screen) := by
  unfold ruleViolations
  rcases rule.scope with _ | _ | _ <;> rcases rule.screenId with _ | screen <;> simp

theorem violations_eq_nil_iff (document : Document) (initial : Option String) :
    document.violations initial = [] ↔ document.WellFormed initial := by
  have hscreens : (∀ entry ∈ withEarlier document.screens,
      entry.1.id ∉ entry.2.map Screen.id ∧ (entry.1.components.map Component.id).Nodup) ↔
      (document.screens.map Screen.id).Nodup ∧
        ∀ screen ∈ document.screens, (screen.components.map Component.id).Nodup := by
    have hfst := map_fst_withEarlier document.screens
    rw [nodup_map_iff_withEarlier]
    conv_rhs => rw [← hfst, List.forall_mem_map, hfst]
    exact ⟨
      fun h => ⟨fun entry hentry => (h entry hentry).1, fun entry hentry => (h entry hentry).2⟩,
      fun h entry hentry => ⟨h.1 entry hentry, h.2 entry hentry⟩⟩
  simp only [violations, List.append_eq_nil_iff, List.flatMap_eq_nil_iff,
    screenViolations_eq_nil_iff, entryViolations_eq_nil_iff, transitionViolations_eq_nil_iff,
    ruleViolations_eq_nil_iff, hscreens]
  constructor
  · rintro ⟨⟨⟨⟨hids, hcomponents⟩, hentry⟩, htransitions⟩, hrules⟩
    refine ⟨hids, hcomponents, hentry, htransitions, fun rule hrule hscope => ?_⟩
    obtain ⟨id, hid, hscreen⟩ := hrules rule hrule hscope
    obtain ⟨screen, hmem, rfl⟩ := List.mem_map.1 hid
    exact ⟨screen, hmem, hscreen⟩
  · intro h
    refine ⟨⟨⟨⟨h.screens_distinct, h.components_distinct⟩, h.entry_exists⟩, h.transitions_exist⟩,
      fun rule hrule hscope => ?_⟩
    obtain ⟨screen, hmem, hscreen⟩ := h.rules_exist rule hrule hscope
    exact ⟨screen.id, List.mem_map_of_mem hmem, hscreen⟩

theorem wellFormed_of_resolve {document : Document} {initial : Option String} {spec : Specification}
    (h : document.resolve initial = .ok spec) : document.WellFormed initial :=
  (document.violations_eq_nil_iff initial).1
    ((document.failsFirst_resolve initial).ok_iff.1 ⟨spec, h⟩)

theorem resolve_of_wellFormed {document : Document} {initial : Option String}
    (h : document.WellFormed initial) : ∃ spec, document.resolve initial = .ok spec :=
  (document.failsFirst_resolve initial).ok_iff.2 ((document.violations_eq_nil_iff initial).2 h)

/-! ## What is taken over -/

theorem lockScope_eq_ok {screens : List String} {rule : AuthoredRule} {scope : Scope}
    (h : lockScope screens rule = .ok scope) :
    (rule.scope ≠ some .screen ∧ scope = .global) ∨
      ∃ screen, rule.scope = some .screen ∧ rule.screenId = some screen ∧
        scope = .screen screen := by
  unfold lockScope at h
  split at h
  next hnone => exact Or.inl ⟨by simp [hnone], (Except.ok.inj h).symm⟩
  next hglobal => exact Or.inl ⟨by simp [hglobal], (Except.ok.inj h).symm⟩
  next hscreen =>
    split at h
    next => cases h
    next screen hid =>
      split at h
      next => exact Or.inr ⟨screen, hscreen, hid, (Except.ok.inj h).symm⟩
      next => cases h

theorem locksTo_of_lockRule {screens : List String} {authored : AuthoredRule} {rule : Rule}
    (h : lockRule screens authored = .ok rule) : authored.LocksTo rule := by
  obtain ⟨scope, hscope, hrule⟩ := bind_eq_ok_iff.1 h
  obtain rfl := pure_eq_ok_iff.1 hrule
  exact ⟨rfl, lockScope_eq_ok hscope, rfl, rfl, rfl⟩

theorem lockInitial_eq_ok {document : Document} {initial : Option String} {screen : String}
    (h : document.lockInitial initial = .ok screen) : document.entry? initial = some screen := by
  unfold lockInitial at h
  rw [entry?_eq] at h
  split at h
  next => cases h
  next other hentry =>
    split at h
    next => rw [hentry, Except.ok.inj h]
    next => cases h

theorem locksTo_of_resolve {document : Document} {initial : Option String} {spec : Specification}
    (h : document.resolve initial = .ok spec) : document.LocksTo initial spec := by
  obtain ⟨screen, hstructure, h⟩ := bind_eq_ok_iff.1 h
  obtain ⟨rules, hrules, h⟩ := bind_eq_ok_iff.1 h
  obtain rfl := pure_eq_ok_iff.1 h
  obtain ⟨_, _, hstructure⟩ := bind_eq_ok_iff.1 hstructure
  obtain ⟨entry, hentry, hstructure⟩ := bind_eq_ok_iff.1 hstructure
  obtain ⟨_, _, hstructure⟩ := bind_eq_ok_iff.1 hstructure
  obtain rfl := pure_eq_ok_iff.1 hstructure
  exact ⟨rfl, lockInitial_eq_ok hentry, rfl,
    (mapM_eq_ok_iff.1 hrules).imp fun _ _ => locksTo_of_lockRule, rfl, rfl⟩

/-- **Resolution.** A document is resolved exactly if it is well-formed, into a specification that
takes over all of it, and is refused exactly with the first of its violations. -/
theorem resolve_iff (document : Document) (initial : Option String) :
    ((∃ spec, document.resolve initial = .ok spec) ↔ document.WellFormed initial) ∧
      (∀ spec, document.resolve initial = .ok spec → document.LocksTo initial spec) ∧
      ∀ error, document.resolve initial = .error error ↔
        (document.violations initial).head? = some error := by
  have h := document.failsFirst_resolve initial
  exact ⟨h.ok_iff.trans (document.violations_eq_nil_iff initial), fun _ => locksTo_of_resolve, h⟩

end Document

end ScreenFlow
