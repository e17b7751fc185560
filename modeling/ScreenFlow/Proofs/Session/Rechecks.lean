import ScreenFlow.Proofs.Session.Run
import ScreenFlow.Specification.Resolution

/-!
# Edits and checks

An edit judges the value by the field that is edited. A check judges it by the field that it finds
under the key, which is the first one in component order that is bound to the key. The two are the
same field unless an earlier one shares the key; where they are not, a check may overrule the edit
that came right before it (`contactForm_overrules`).

1. A check leaves all errors as they are exactly if every key that it lists is settled: its error is
   the verdict on its value already (`errors_recheck_eq_iff`).
2. An edit settles its own key exactly if the field of the check comes to the same verdict, and
   leaves other keys as settled as they were (`settled_change_iff`, `settled_change_of_ne`).

Nothing is asked of the specification or of the state, nor that the screen is the active one.
-/

namespace ScreenFlow

/-! ## The field that a check asks -/

section Fields

variable {screen : Screen} {component : Component} {field : TextField}

/-- Under the key of a text field some field is found: this one or an earlier one. -/
theorem Screen.exists_textField? (hcomponent : component ∈ screen.components)
    (hfield : component.textField? = some field) :
    ∃ judge, screen.textField? component.bindingKey = some judge := by
  have hbound : component ∈ screen.components.filter (·.bindingKey = component.bindingKey) :=
    List.mem_filter.2 ⟨hcomponent, decide_eq_true rfl⟩
  cases hjudge : screen.textField? component.bindingKey with
  | some judge => exact ⟨judge, rfl⟩
  | none =>
    have hnone := List.findSome?_eq_none_iff.1 hjudge component hbound
    rw [hfield] at hnone
    cases hnone

/-- It is this one if no text field before it is bound to the key. -/
theorem Screen.textField?_of_first {earlier later : List Component}
    (hparts : screen.components = earlier ++ component :: later)
    (hfield : component.textField? = some field)
    (hfirst : ∀ other ∈ earlier, other.textField?.isSome →
      other.bindingKey ≠ component.bindingKey) :
    screen.textField? component.bindingKey = some field := by
  have hearlier : (earlier.filter (·.bindingKey = component.bindingKey)).findSome?
      Component.textField? = none := by
    rw [List.findSome?_eq_none_iff]
    intro other hother
    obtain ⟨hmem, hkey⟩ := List.mem_filter.1 hother
    by_contra hsome
    exact hfirst other hmem (Option.isSome_iff_ne_none.2 hsome) (of_decide_eq_true hkey)
  unfold Screen.textField?
  rw [hparts, List.filter_append, List.findSome?_append, hearlier, Option.none_or,
    List.filter_cons, if_pos (decide_eq_true rfl), List.findSome?_cons, hfield]

end Fields

/-! ## What a check comes to -/

/-- The error of a key is what the text field found under it says of its value. -/
def Screen.Settled (screen : Screen) (state : State) (key : String) : Prop :=
  ∀ field, screen.textField? key = some field →
    field.error? (state.value key) = state.errors.get? key

/-- The text field found under a key finds a fault with its value. -/
def Screen.Faulty (screen : Screen) (state : State) (key : String) : Prop :=
  ∃ field, screen.textField? key = some field ∧ field.error? (state.value key) ≠ none

/-- What a check leaves that is run on a screen. -/
def Session.recheck (session : Session) (screen : Screen) (rule : Rule) (check : FieldCheck) :
    State :=
  ((Step.validate check).run session.specification screen rule (.start session.state)).state

section Checks

variable (session : Session) (screen : Screen) (rule : Rule) (check : FieldCheck)

theorem Session.errors_recheck_eq_iff :
    (session.recheck screen rule check).errors = session.state.errors ↔
      ∀ key ∈ check.fields, screen.Settled session.state key := by
  have hget : ∀ key, (session.recheck screen rule check).errors.get? key =
      (Step.validate check).errorAfter session.specification screen session.state key
        (session.state.errors.get? key) := by
    intro key
    unfold recheck
    rw [(Progress.runs_run session.specification screen rule (.start session.state)
      (.validate check)).state]
    exact Step.errors_advance session.specification screen session.state (.validate check) key
  dsimp only [Step.errorAfter] at hget
  constructor
  · intro hsame key hkey field hfield
    have hverdict := hget key
    rw [if_pos hkey, hfield, hsame] at hverdict
    exact hverdict.symm
  · intro hsettled
    refine Bindings.ext_get? fun key => ?_
    rw [hget]
    by_cases hkey : key ∈ check.fields
    · rw [if_pos hkey]
      cases hfield : screen.textField? key with
      | none => rfl
      | some field => exact hsettled key hkey field hfield
    · rw [if_neg hkey]

theorem FieldCheck.fails_iff (state : State) :
    check.fails screen state = true ↔ ∃ key ∈ check.fields, screen.Faulty state key := by
  unfold fails Screen.Faulty
  simp only [List.any_eq_true, Option.any_eq_true, Option.isSome_iff_ne_none]

end Checks

/-! ## What an edit leaves -/

namespace Session

section Edits

variable {session : Session} {screen : Screen} {component : Component} {field judge : TextField}
  (hfield : component.textField? = some field) (value : String)

include hfield

theorem state_change : (session.change component value).state =
    (session.state.setValue component.bindingKey value).setError component.bindingKey
      (field.error? value) := by
  unfold change
  rw [hfield]

theorem value_change (key : String) : (session.change component value).state.value key =
    if key = component.bindingKey then value else session.state.value key := by
  unfold State.value
  rw [state_change hfield, State.values_setError, State.setValue, Bindings.get?_insert]
  by_cases hkey : key = component.bindingKey
  · rw [if_pos hkey, if_pos hkey]
    rfl
  · rw [if_neg hkey, if_neg hkey]

theorem error_change (key : String) : (session.change component value).state.errors.get? key =
    if key = component.bindingKey then field.error? value else session.state.errors.get? key := by
  rw [state_change hfield, State.get?_errors_setError]
  rfl

/-- An edit settles its key if the field found under the key judges as the one edited. -/
theorem settled_change_iff (hjudge : screen.textField? component.bindingKey = some judge) :
    screen.Settled (session.change component value).state component.bindingKey ↔
      judge.error? value = field.error? value := by
  unfold Screen.Settled
  rw [value_change hfield, error_change hfield, if_pos rfl, if_pos rfl, hjudge]
  simp only [Option.some.injEq, forall_eq']

theorem faulty_change_iff (hjudge : screen.textField? component.bindingKey = some judge) :
    screen.Faulty (session.change component value).state component.bindingKey ↔
      judge.error? value ≠ none := by
  unfold Screen.Faulty
  rw [value_change hfield, if_pos rfl, hjudge]
  simp only [Option.some.injEq, exists_eq_left']

/-- It leaves other keys as they were. -/
theorem settled_change_of_ne {key : String} (h : key ≠ component.bindingKey) :
    screen.Settled (session.change component value).state key ↔
      screen.Settled session.state key := by
  unfold Screen.Settled
  rw [value_change hfield, error_change hfield, if_neg h, if_neg h]

theorem faulty_change_of_ne {key : String} (h : key ≠ component.bindingKey) :
    screen.Faulty (session.change component value).state key ↔
      screen.Faulty session.state key := by
  unfold Screen.Faulty
  rw [value_change hfield, if_neg h]

/-- Keys of which one is that of the edit. -/
theorem forall_settled_change_iff (hjudge : screen.textField? component.bindingKey = some judge)
    {keys : List String} (hlists : component.bindingKey ∈ keys) :
    (∀ key ∈ keys, screen.Settled (session.change component value).state key) ↔
      judge.error? value = field.error? value ∧
        ∀ key ∈ keys, key ≠ component.bindingKey → screen.Settled session.state key := by
  constructor
  · intro h
    exact ⟨(settled_change_iff hfield value hjudge).1 (h _ hlists),
      fun key hkey hne => (settled_change_of_ne hfield value hne).1 (h key hkey)⟩
  · rintro ⟨hagree, hothers⟩ key hkey
    by_cases hne : key = component.bindingKey
    · rw [hne]
      exact (settled_change_iff hfield value hjudge).2 hagree
    · exact (settled_change_of_ne hfield value hne).2 (hothers key hkey hne)

theorem exists_faulty_change_iff (hjudge : screen.textField? component.bindingKey = some judge)
    {keys : List String} (hlists : component.bindingKey ∈ keys) :
    (∃ key ∈ keys, screen.Faulty (session.change component value).state key) ↔
      judge.error? value ≠ none ∨
        ∃ key ∈ keys, key ≠ component.bindingKey ∧ screen.Faulty session.state key := by
  constructor
  · rintro ⟨key, hkey, hfaulty⟩
    by_cases hne : key = component.bindingKey
    · rw [hne, faulty_change_iff hfield value hjudge] at hfaulty
      exact Or.inl hfaulty
    · exact Or.inr ⟨key, hkey, hne, (faulty_change_of_ne hfield value hne).1 hfaulty⟩
  · rintro (hfault | ⟨key, hkey, hne, hfaulty⟩)
    · exact ⟨_, hlists, (faulty_change_iff hfield value hjudge).2 hfault⟩
    · exact ⟨key, hkey, (faulty_change_of_ne hfield value hne).2 hfaulty⟩

end Edits

/-! ## A check after an edit -/

/-- **Edits and checks.** A check that lists the key of a text field, run after an edit of that
field, judges the value by the first text field of the screen that is bound to the key; that is the
edited one if no text field before it is bound to the key. The check leaves all errors as the edit
left them exactly if both fields come to the same verdict and all other keys that it lists were
settled before, and it fails exactly if its field or one of another key finds a fault. -/
theorem recheck_after_change (session : Session) {screen : Screen} {component : Component}
    {field : TextField} {earlier later : List Component}
    (hparts : screen.components = earlier ++ component :: later)
    (hfield : component.textField? = some field) (value : String) (rule : Rule)
    {check : FieldCheck} (hlists : component.bindingKey ∈ check.fields) :
    (session.change component value).state.errors.get? component.bindingKey =
        field.error? value ∧
      ∃ judge, screen.textField? component.bindingKey = some judge ∧
        ((∀ other ∈ earlier, other.textField?.isSome →
          other.bindingKey ≠ component.bindingKey) → judge = field) ∧
        (((session.move (.change component value)).recheck screen rule check).errors =
            (session.change component value).state.errors ↔
          judge.error? value = field.error? value ∧
            ∀ key ∈ check.fields, key ≠ component.bindingKey →
              screen.Settled session.state key) ∧
        (check.fails screen (session.change component value).state = true ↔
          judge.error? value ≠ none ∨
            ∃ key ∈ check.fields, key ≠ component.bindingKey ∧
              screen.Faulty session.state key) := by
  have hmem : component ∈ screen.components := hparts ▸ List.mem_append_right _ List.mem_cons_self
  obtain ⟨judge, hjudge⟩ := Screen.exists_textField? hmem hfield
  refine ⟨?_, judge, hjudge, fun hfirst => ?_, ?_, ?_⟩
  · rw [error_change hfield, if_pos rfl]
  · exact Option.some.inj (hjudge.symm.trans (Screen.textField?_of_first hparts hfield hfirst))
  · exact (errors_recheck_eq_iff _ screen rule check).trans
      (forall_settled_change_iff hfield value hjudge hlists)
  · exact (check.fails_iff screen _).trans (exists_faulty_change_iff hfield value hjudge hlists)

/-- A field for a name that must be given. -/
def fullName : Component := ⟨"name", .textField ⟨none, none, some "user", .text, true, ⟨none⟩⟩⟩

/-- A field for the same key that may stay empty. -/
def nickname : Component := ⟨"nick", .textField ⟨none, none, some "user", .text, false, ⟨none⟩⟩⟩

/-- A screen with both fields, and one for another key that must be given. -/
def contactForm : Screen :=
  ⟨"form", none, none, .standard, [fullName, nickname,
    ⟨"city", .textField ⟨none, none, none, .text, true, ⟨none⟩⟩⟩,
    ⟨"save", .button ⟨"Save", none, none, none⟩⟩, ⟨"send", .button ⟨"Send", none, none, none⟩⟩]⟩

/-- A check of the shared key alone. -/
def userCheck : FieldCheck := ⟨["user"], none, true⟩

/-- A check of both keys. -/
def contactCheck : FieldCheck := ⟨["user", "city"], none, true⟩

/-- The document of that screen, with a button for each check. -/
def contacts : Document where
  info := none
  screens := [contactForm]
  rules := [⟨"save", none, none, "save.click", [], [.validate userCheck]⟩,
    ⟨"send", none, none, "send.click", [], [.validate contactCheck]⟩]
  transitions := []
  operational := none

/-- The rule of the first button, once locked. -/
def saveRule : Rule := ⟨"save", .global, "save.click", [], [.validate userCheck]⟩

/-- An edit of the first field of the key is confirmed by a check of the key. -/
theorem recheck_after_change_fullName :
    ∃ spec session, contacts.resolve none = .ok spec ∧
      Session.start spec .empty none = .ok session ∧
      contactForm.components = [] ++ fullName :: contactForm.components.tail ∧
      (∃ field, fullName.textField? = some field) ∧ fullName.bindingKey ∈ userCheck.fields ∧
      (session.change fullName " ").state.errors.get? fullName.bindingKey =
        some Violation.required.message ∧
      ((session.move (.change fullName " ")).recheck contactForm saveRule userCheck).errors =
        (session.change fullName " ").state.errors ∧
      userCheck.fails contactForm (session.change fullName " ").state = true := by
  obtain ⟨spec, hresolve⟩ : ∃ spec, contacts.resolve none = .ok spec := ⟨_, rfl⟩
  obtain ⟨session, hstart⟩ : ∃ session, Session.start spec .empty none = .ok session := by
    obtain rfl := Except.ok.inj hresolve
    exact ⟨_, rfl⟩
  have hparts : contactForm.components = [] ++ fullName :: contactForm.components.tail := rfl
  have hlists : fullName.bindingKey ∈ userCheck.fields := List.mem_cons_self
  obtain ⟨hedit, judge, _, hfirst, hunchanged, hfails⟩ :=
    recheck_after_change session hparts rfl " " saveRule hlists
  obtain rfl := hfirst fun _ hmem => (List.not_mem_nil hmem).elim
  refine ⟨spec, session, hresolve, hstart, hparts, ⟨_, rfl⟩, hlists, hedit, ?_, ?_⟩
  · refine hunchanged.2 ⟨rfl, fun key hkey hne => ?_⟩
    exact absurd (List.mem_singleton.1 hkey) hne
  · exact hfails.2 (Or.inl (by decide))

/-- An empty nickname is taken, and a check of the key overrules that by the other field. A full
name is taken too, and a check that also lists the other key finds the fault of that one. -/
theorem contactForm_overrules :
    ∃ spec session, contacts.resolve none = .ok spec ∧
      Session.start spec .empty none = .ok session ∧ contactForm ∈ spec.screens ∧
      session.state.activeScreen = contactForm.id ∧ nickname ∈ contactForm.components ∧
      nickname.bindingKey ∈ userCheck.fields ∧
      (session.change nickname "").state.errors.get? "user" = none ∧
      ((session.move (.change nickname "")).recheck contactForm saveRule userCheck).errors.get?
        "user" = some Violation.required.message ∧
      userCheck.fails contactForm (session.change nickname "").state = true ∧
      fullName ∈ contactForm.components ∧ fullName.bindingKey ∈ contactCheck.fields ∧
      (session.change fullName "Ada").state.errors = .empty ∧
      ((session.move (.change fullName "Ada")).recheck contactForm saveRule contactCheck).errors ≠
        .empty ∧
      contactCheck.fails contactForm (session.change fullName "Ada").state = true := by
  obtain ⟨spec, hresolve⟩ : ∃ spec, contacts.resolve none = .ok spec := ⟨_, rfl⟩
  refine ⟨spec, ?_⟩
  obtain rfl := Except.ok.inj hresolve
  exact ⟨_, rfl, rfl, List.mem_cons_self, rfl, by decide, by decide, by decide, by decide,
    by decide, by decide, by decide, by decide, by decide, by decide⟩

end Session

end ScreenFlow
