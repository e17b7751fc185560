import Mathlib.Logic.Relation
import ScreenFlow.Proofs.Identity
import ScreenFlow.Proofs.Session.Lookalike

/-!
# Edits that change nothing

Much of the order in which a document lists what it holds is of no account. `Document.Edit` has the
edits that can be made: screens in any order; a transition left out that is never the first for its
event and screen; neighbours swapped among the transitions, and among the rules, if nothing asks for
both of them at once.

1. What a specification is asked about its rules is an event on a screen, and the answer is a filter
   of the list. A swap of two entries that do not both pass changes no filter (`Swap.filter_eq`).
2. An edit keeps the answers and what resolution asks for (`Document.Alike`), and so does any
   sequence of edits (`alike_of_edits`).
3. So the edited document is resolved, and no session can tell the two specifications apart
   (`exists_lookalike`, `behaves_edited`).
-/

namespace ScreenFlow

/-! ## Lists in another order -/

/-- An entry that comes after another one of its kind is never the first of a kind. -/
theorem find?_of_shadowed {α : Type} {before after : List α} {x : α} {passes : α → Bool}
    (h : passes x = true → ∃ earlier ∈ before, passes earlier = true) :
    (before ++ after).find? passes = (before ++ x :: after).find? passes := by
  rw [List.find?_append, List.find?_append]
  cases hx : passes x with
  | false => rw [List.find?_cons_of_neg (by rw [hx]; exact Bool.false_ne_true)]
  | true =>
    obtain ⟨first, hfirst⟩ := Option.isSome_iff_exists.1 (List.find?_isSome.2 (h hx))
    rw [hfirst]
    rfl

/-- Two neighbours that are apart change places. -/
def Swap {α : Type} (apart : α → α → Prop) (xs ys : List α) : Prop :=
  ∃ before first second after, apart first second ∧
    xs = before ++ first :: second :: after ∧ ys = before ++ second :: first :: after

section Swap

variable {α : Type} {apart : α → α → Prop} {xs ys : List α}

theorem Swap.perm (h : Swap apart xs ys) : ys.Perm xs := by
  obtain ⟨before, first, second, after, _, rfl, rfl⟩ := h
  exact (List.Perm.swap first second after).append_left before

theorem Swap.filter_eq (h : Swap apart xs ys) {passes : α → Bool}
    (hpasses : ∀ first second, apart first second →
      ¬ (passes first = true ∧ passes second = true)) :
    ys.filter passes = xs.filter passes := by
  obtain ⟨before, first, second, after, hapart, rfl, rfl⟩ := h
  have hnot := hpasses first second hapart
  rw [List.filter_append, List.filter_append]
  congr 1
  cases hfirst : passes first with
  | false => simp only [List.filter_cons, hfirst, Bool.false_eq_true, if_false]
  | true =>
    have hsecond : passes second = false :=
      Bool.eq_false_iff.2 fun hsecond => hnot ⟨hfirst, hsecond⟩
    simp only [List.filter_cons, hfirst, hsecond, Bool.false_eq_true, if_false]

end Swap

/-! ## Rules as they are locked -/

namespace AuthoredRule

/-- The rule that a rule is locked to. -/
def locked (rule : AuthoredRule) : Rule where
  id := rule.id
  scope :=
    match rule.scope, rule.screenId with
    | some .screen, some screen => .screen screen
    | _, _ => .global
  onEvent := rule.onEvent
  guards := rule.guards
  steps := rule.steps

/-- The rule is bound to a screen. -/
def BoundTo (rule : AuthoredRule) (screen : String) : Prop :=
  rule.scope = some .screen ∧ rule.screenId = some screen

/-- The rules react to different events, or are bound to different screens. -/
def Apart (first second : AuthoredRule) : Prop :=
  first.onEvent ≠ second.onEvent ∨
    ∃ screen other, first.BoundTo screen ∧ second.BoundTo other ∧ screen ≠ other

theorem LocksTo.eq_locked {rule : AuthoredRule} {lock : Rule} (h : rule.LocksTo lock) :
    lock = rule.locked := by
  obtain ⟨hid, hscope, hevent, hguards, hsteps⟩ := h
  obtain ⟨id, scope, onEvent, guards, steps⟩ := lock
  dsimp only at hid hscope hevent hguards hsteps
  subst hid hevent hguards hsteps
  rcases hscope with ⟨hunbound, rfl⟩ | ⟨screen, hbound, hscreen, rfl⟩
  · unfold locked
    split
    next hbound _ => exact absurd hbound hunbound
    next => rfl
  · unfold locked
    rw [hbound, hscreen]

theorem not_both_react {first second : AuthoredRule} (h : first.Apart second)
    (screenId event : String) :
    ¬ (first.locked.reactsTo screenId event = true ∧
      second.locked.reactsTo screenId event = true) := by
  unfold Rule.reactsTo locked
  rintro ⟨hfirst, hsecond⟩
  rw [Bool.and_eq_true, beq_iff_eq] at hfirst hsecond
  rcases h with hevent | ⟨screen, other, ⟨hscope, hscreen⟩, ⟨hscope', hscreen'⟩, hne⟩
  · exact hevent (hfirst.2.trans hsecond.2.symm)
  · rw [hscope, hscreen] at hfirst
    rw [hscope', hscreen'] at hsecond
    exact hne ((beq_iff_eq.1 hfirst.1).trans (beq_iff_eq.1 hsecond.1).symm)

end AuthoredRule

theorem rules_eq_of_locksTo {rules : List AuthoredRule} {locks : List Rule}
    (h : List.Forall₂ AuthoredRule.LocksTo rules locks) :
    locks = rules.map AuthoredRule.locked := by
  induction h with
  | nil => rfl
  | cons hrule _ ih => rw [List.map_cons, ← hrule.eq_locked, ← ih]

namespace Document

/-! ## Edits -/

/-- One edit of a document. -/
inductive Edit : Document → Document → Prop
  /-- Screens are listed in another order. -/
  | screens {document : Document} {screens : List Screen} (order : screens.Perm document.screens) :
    Edit document { document with screens }
  /-- A transition is left out that comes after another one of its event and source. -/
  | dropTransition {document : Document} {before after : List Transition} {transition : Transition}
    (split : document.transitions = before ++ transition :: after)
    (shadowed : ∃ earlier ∈ before,
      earlier.event = transition.event ∧ earlier.source = transition.source) :
    Edit document { document with transitions := before ++ after }
  /-- Two neighbours change places of which the event or the source differ. -/
  | swapTransitions {document : Document} {transitions : List Transition}
    (swap : Swap (fun first second => first.event ≠ second.event ∨ first.source ≠ second.source)
      document.transitions transitions) :
    Edit document { document with transitions }
  /-- Two neighbours change places that never run one after the other. -/
  | swapRules {document : Document} {rules : List AuthoredRule}
    (swap : Swap AuthoredRule.Apart document.rules rules) :
    Edit document { document with rules }

/-- A document still refers to nothing that is not there, and answers what a session asks as
before. -/
structure Alike (document edited : Document) : Prop where
  operational : edited.operational = document.operational
  screens : edited.screens.Perm document.screens
  rules : edited.rules ⊆ document.rules
  transitions : edited.transitions ⊆ document.transitions
  reacting : ∀ screenId event,
    (edited.rules.filter fun rule => rule.locked.reactsTo screenId event) =
      document.rules.filter fun rule => rule.locked.reactsTo screenId event
  leading : ∀ event source : String,
    (edited.transitions.find? fun transition =>
        transition.event = event ∧ transition.source = source) =
      document.transitions.find? fun transition =>
        transition.event = event ∧ transition.source = source

theorem Alike.refl (document : Document) : document.Alike document :=
  ⟨rfl, .refl _, fun _ h => h, fun _ h => h, fun _ _ => rfl, fun _ _ => rfl⟩

theorem Alike.trans {document middle edited : Document} (h : document.Alike middle)
    (hlater : middle.Alike edited) : document.Alike edited where
  operational := hlater.operational.trans h.operational
  screens := hlater.screens.trans h.screens
  rules := fun _ hmem => h.rules (hlater.rules hmem)
  transitions := fun _ hmem => h.transitions (hlater.transitions hmem)
  reacting := fun screenId event => (hlater.reacting screenId event).trans (h.reacting screenId event)
  leading := fun event source => (hlater.leading event source).trans (h.leading event source)

/-- One edit. -/
theorem Edit.alike {document edited : Document} (h : document.Edit edited) :
    document.Alike edited := by
  cases h with
  | screens order => exact { Alike.refl document with screens := order }
  | @dropTransition before after transition split shadowed =>
    have hsubset : before ++ after ⊆ document.transitions := by
      rw [split]
      exact (List.sublist_cons_self transition after).append_left before |>.subset
    refine { Alike.refl document with transitions := hsubset, leading := fun event source => ?_ }
    rw [split]
    refine find?_of_shadowed fun hpasses => ?_
    obtain ⟨earlier, hmem, hevent, hsource⟩ := shadowed
    refine ⟨earlier, hmem, ?_⟩
    rw [hevent, hsource]
    exact hpasses
  | swapTransitions swap =>
    refine { Alike.refl document with
      transitions := swap.perm.subset, leading := fun event source => ?_ }
    rw [← List.head?_filter, ← List.head?_filter]
    refine congrArg List.head? (swap.filter_eq fun first second hapart => ?_)
    rw [decide_eq_true_eq, decide_eq_true_eq]
    rintro ⟨⟨hevent, hsource⟩, hevent', hsource'⟩
    rcases hapart with hne | hne
    · exact hne (hevent.trans hevent'.symm)
    · exact hne (hsource.trans hsource'.symm)
  | swapRules swap =>
    refine { Alike.refl document with
      rules := swap.perm.subset, reacting := fun screenId event => ?_ }
    exact swap.filter_eq fun _ _ hapart => AuthoredRule.not_both_react hapart screenId event

/-- Any sequence of edits. -/
theorem alike_of_edits {document edited : Document}
    (h : Relation.ReflTransGen Edit document edited) : document.Alike edited := by
  induction h with
  | refl => exact .refl document
  | tail _ hedit ih => exact ih.trans hedit.alike

/-! ## Resolution of an edited document -/

/-- The screen that a document names to log in on. -/
def loginScreen? (document : Document) : Option String :=
  document.operational.bind fun operational => operational.access.bind (·.loginScreen)

section Alike

variable {document edited : Document} {override : Option String} (h : document.Alike edited)

include h

/-- Where the screen to start on is named, it is the same in any order of the screens. -/
theorem Alike.entry?_eq (hnamed : (override <|> document.loginScreen?).isSome) :
    edited.entry? override = document.entry? override := by
  rw [← Document.entry?_eq, ← Document.entry?_eq]
  cases override with
  | some screen => rfl
  | none =>
    obtain ⟨login, hlogin⟩ := Option.isSome_iff_exists.1 hnamed
    have hlogin' : edited.loginScreen? = some login := by
      unfold loginScreen?
      rw [h.operational]
      exact hlogin
    show (edited.loginScreen? <|> _) = (document.loginScreen? <|> _)
    rw [hlogin', show document.loginScreen? = some login from hlogin]
    rfl

theorem Alike.wellFormed (hentry : edited.entry? override = document.entry? override)
    (hformed : document.WellFormed override) : edited.WellFormed override where
  screens_distinct := (h.screens.map Screen.id).nodup_iff.2 hformed.screens_distinct
  components_distinct := fun screen hscreen =>
    hformed.components_distinct screen (h.screens.subset hscreen)
  entry_exists := by
    obtain ⟨screen, hscreen, hid⟩ := hformed.entry_exists
    exact ⟨screen, h.screens.symm.subset hscreen, hentry.trans hid⟩
  transitions_exist := fun transition hmem => by
    rw [(h.screens.map Screen.id).mem_iff, (h.screens.map Screen.id).mem_iff]
    exact hformed.transitions_exist transition (h.transitions hmem)
  rules_exist := fun rule hmem hscope => by
    obtain ⟨screen, hscreen, hbound⟩ := hformed.rules_exist rule (h.rules hmem) hscope
    exact ⟨screen, h.screens.symm.subset hscreen, hbound⟩

/-- Documents that are alike resolve to specifications that look alike, whatever they start on. -/
theorem Alike.lookalike {other : Option String} {spec copy : Specification}
    (hresolve : document.resolve override = .ok spec) (hcopy : edited.resolve other = .ok copy) :
    copy.Lookalike spec := by
  have hlocks := locksTo_of_resolve hresolve
  have hlocks' := locksTo_of_resolve hcopy
  constructor
  · refine Specification.screen_congr (distinctIds_of_resolve hresolve)
      (distinctIds_of_resolve hcopy) ?_
    rw [hlocks.screens, hlocks'.screens]
    exact h.screens
  · intro screenId event
    unfold Specification.rulesFor
    rw [rules_eq_of_locksTo hlocks.rules, rules_eq_of_locksTo hlocks'.rules, List.filter_map,
      List.filter_map]
    exact congrArg (List.map AuthoredRule.locked) (h.reacting screenId event)
  · intro event source
    unfold Specification.target? Specification.transition?
    rw [hlocks.transitions, hlocks'.transitions, h.leading]

/-- What an alike document resolves to. -/
theorem Alike.exists_lookalike (hnamed : (override <|> document.loginScreen?).isSome)
    {spec : Specification} (hresolve : document.resolve override = .ok spec) :
    ∃ copy, edited.resolve override = .ok copy ∧ copy.Lookalike spec ∧
      copy.initialScreen = spec.initialScreen := by
  have hentry := h.entry?_eq hnamed
  obtain ⟨copy, hcopy⟩ :=
    resolve_of_wellFormed (h.wellFormed hentry (wellFormed_of_resolve hresolve))
  refine ⟨copy, hcopy, h.lookalike hresolve hcopy, Option.some.inj ?_⟩
  rw [← (locksTo_of_resolve hcopy).initialScreen, hentry,
    (locksTo_of_resolve hresolve).initialScreen]

end Alike

/-- **Edits that change nothing.** If a document resolves, and the screen to start on is named by it or
by the override, then any sequence of edits leaves a document that resolves too, and sessions on the
two specifications miss the same screen or start in the same state, and have the same turns whatever
is requested. -/
theorem behaves_edited {document edited : Document} {override : Option String}
    {spec : Specification} (hresolve : document.resolve override = .ok spec)
    (hnamed : (override <|> document.loginScreen?).isSome)
    (hedits : Relation.ReflTransGen Edit document edited) :
    ∃ copy, edited.resolve override = .ok copy ∧
      ∀ assets initial requests,
        (Session.start copy assets initial).map
            (fun session => (session.state, session.turns requests)) =
          (Session.start spec assets initial).map
            (fun session => (session.state, session.turns requests)) := by
  obtain ⟨copy, hcopy, hlookalike, hinitial⟩ :=
    (alike_of_edits hedits).exists_lookalike hnamed hresolve
  exact ⟨copy, hcopy, hlookalike.behaves hinitial⟩

/-- A form that a check guards, with a way that is never taken. -/
def doubledForm : Document where
  info := none
  screens := [
    ⟨"form", none, none, .standard, [
      ⟨"name", .textField ⟨none, none, none, .text, true, ⟨none⟩⟩⟩,
      ⟨"save", .button ⟨"Save", none, none, none⟩⟩]⟩,
    ⟨"done", none, none, .standard, []⟩]
  rules := [
    ⟨"check", some .screen, some "form", "save.click", [], [.validate ⟨["name"], none, true⟩]⟩,
    ⟨"again", some .screen, some "done", "save.click", [], []⟩,
    ⟨"leave", none, none, "save.click", [], [.start ⟨"store", .empty, some "stored", none⟩]⟩]
  transitions := [
    ⟨"onward", "stored", "form", "done", false⟩,
    ⟨"back", "stored", "done", "form", false⟩,
    ⟨"never", "stored", "form", "form", false⟩]
  operational := some ⟨some ⟨some "form", none⟩⟩

/-- The same form, listed in another order and without the way that is never taken. -/
def rearrangedForm : Document where
  info := none
  screens := [
    ⟨"done", none, none, .standard, []⟩,
    ⟨"form", none, none, .standard, [
      ⟨"name", .textField ⟨none, none, none, .text, true, ⟨none⟩⟩⟩,
      ⟨"save", .button ⟨"Save", none, none, none⟩⟩]⟩]
  rules := [
    ⟨"again", some .screen, some "done", "save.click", [], []⟩,
    ⟨"check", some .screen, some "form", "save.click", [], [.validate ⟨["name"], none, true⟩]⟩,
    ⟨"leave", none, none, "save.click", [], [.start ⟨"store", .empty, some "stored", none⟩]⟩]
  transitions := [
    ⟨"back", "stored", "done", "form", false⟩,
    ⟨"onward", "stored", "form", "done", false⟩]
  operational := some ⟨some ⟨some "form", none⟩⟩

/-- A click that the check stops, an edit, and a click that leads away. -/
def formRequests : List Request :=
  [.buttonClick "form" "save", .inputChange "form" "name" "Ann", .buttonClick "form" "save"]

theorem behaves_edited_doubledForm :
    ∃ spec copy, doubledForm.resolve none = .ok spec ∧ doubledForm.loginScreen? = some "form" ∧
      Relation.ReflTransGen Edit doubledForm rearrangedForm ∧
      rearrangedForm.resolve none = .ok copy ∧
      (Session.start spec .empty none).map
          (fun session => (session.turns formRequests).map (·.state.activeScreen)) =
        .ok ["form", "form", "done"] ∧
      (Session.start copy .empty none).map
          (fun session => (session.state, session.turns formRequests)) =
        (Session.start spec .empty none).map
          (fun session => (session.state, session.turns formRequests)) := by
  have hedits : Relation.ReflTransGen Edit doubledForm rearrangedForm := by
    have hscreens : doubledForm.Edit { doubledForm with screens := rearrangedForm.screens } :=
      .screens (.swap _ _ [])
    refine (Relation.ReflTransGen.single hscreens)
      |>.tail (@Edit.dropTransition _ (doubledForm.transitions.take 2) []
        ⟨"never", "stored", "form", "form", false⟩ rfl ⟨_, List.mem_cons_self, rfl, rfl⟩)
      |>.tail (.swapTransitions ⟨[], _, _, [], .inr ?_, rfl, rfl⟩)
      |>.tail (.swapRules ⟨[], _, _, _, .inr ⟨_, _, ⟨rfl, rfl⟩, ⟨rfl, rfl⟩, ?_⟩, rfl, rfl⟩)
    · decide
    · decide
  obtain ⟨spec, hresolve, hwalk⟩ : ∃ spec, doubledForm.resolve none = .ok spec ∧
      (Session.start spec .empty none).map
          (fun session => (session.turns formRequests).map (·.state.activeScreen)) =
        .ok ["form", "form", "done"] := ⟨_, rfl, rfl⟩
  obtain ⟨copy, hcopy, hbehaves⟩ := behaves_edited hresolve rfl hedits
  exact ⟨spec, copy, hresolve, rfl, hedits, hcopy, hwalk, hbehaves .empty none formRequests⟩

end Document

end ScreenFlow
