import ScreenFlow.Proofs.Identity
import ScreenFlow.Proofs.Session.Run

/-!
# Where values come from

The only request that writes a value is an edit of a text field on the active screen. It writes
under the key that the field is bound to, and under no other (`get?_values_after`). So what is
stored under a key after a run of requests is what the last such edit of the key wrote, and nothing
if there was none (`stored_serve`).

Which edits count is told by the specification and by the screen that is active when the edit comes:
`Session.written?` says it of one request, `Session.writes` of a run.
-/

namespace ScreenFlow

/-- On the screen of an id there is a text field of an id that is bound to a key. -/
def Specification.Binds (spec : Specification) (screenId fieldId key : String) : Prop :=
  ∃ screen ∈ spec.screens, screen.id = screenId ∧
    ∃ component ∈ screen.components, component.id = fieldId ∧
      component.textField?.isSome ∧ component.bindingKey = key

instance (spec : Specification) (screenId fieldId key : String) :
    Decidable (spec.Binds screenId fieldId key) :=
  inferInstanceAs (Decidable (∃ screen ∈ spec.screens, _))

namespace Session

/-- What a request writes under a key: the value of an edit of a field that is bound to the key and
is on the active screen. -/
def written? (session : Session) (key : String) : Request → Option String
  | .inputChange screenId fieldId value =>
    if screenId = session.state.activeScreen ∧ session.specification.Binds screenId fieldId key then
      some value
    else none
  | .view | .buttonClick _ _ => none

/-- What requests write under a key, in order, each judged by the state that it meets. -/
def writes (session : Session) (key : String) : List Request → List String
  | [] => []
  | request :: requests =>
    (session.written? key request).toList ++ (session.after request).writes key requests

/-! ## One request -/

/-- A request finds the component of its id on the active screen. -/
theorem finds_iff {session : Session} (h : session.specification.DistinctIds)
    {screenId componentId : String} {component : Component} :
    session.Finds screenId componentId component ↔
      screenId = session.state.activeScreen ∧ ∃ screen ∈ session.specification.screens,
        screen.id = screenId ∧ component ∈ screen.components ∧ component.id = componentId := by
  unfold Finds
  constructor
  · rintro ⟨screen, hscreen, hactive, hcomponent⟩
    obtain ⟨hmem, hid⟩ := h.screen_eq_ok_iff.1 hscreen
    exact ⟨hid.symm.trans hactive, screen, hmem, hid, (h.component?_eq_some_iff hmem).1 hcomponent⟩
  · rintro ⟨hactive, screen, hmem, hid, hcomponent⟩
    exact ⟨screen, h.screen_eq_ok_iff.2 ⟨hmem, hid⟩, hid.trans hactive,
      (h.component?_eq_some_iff hmem).2 hcomponent⟩

/-- An edit that finds a component writes if that is a text field, under the key of the field. -/
theorem written?_of_finds {session : Session} (h : session.specification.DistinctIds)
    {screenId fieldId : String} {component : Component}
    (hfound : session.Finds screenId fieldId component) (key value : String) :
    session.written? key (.inputChange screenId fieldId value) =
      if component.textField?.isSome ∧ component.bindingKey = key then some value else none := by
  refine if_congr ?_ rfl rfl
  constructor
  · rintro ⟨hactive, screen, hmem, hid, other, hother, hname, hbound⟩
    have hsame := finds_unique hfound
      ((finds_iff h).2 ⟨hactive, screen, hmem, hid, hother, hname⟩)
    rw [hsame]
    exact hbound
  · intro hbound
    obtain ⟨hactive, screen, hmem, hid, hcomponent, hname⟩ := (finds_iff h).1 hfound
    exact ⟨hactive, screen, hmem, hid, component, hcomponent, hname, hbound⟩

theorem written?_of_not_reaches {session : Session} (h : session.specification.DistinctIds)
    {request : Request} (hnone : ∀ component, ¬ session.Reaches component request) (key : String) :
    session.written? key request = none := by
  cases request with
  | view => rfl
  | inputChange screenId fieldId value =>
    refine if_neg ?_
    rintro ⟨hactive, screen, hmem, hid, component, hcomponent, hname, _⟩
    exact hnone component ((finds_iff h).2 ⟨hactive, screen, hmem, hid, hcomponent, hname⟩)
  | buttonClick screenId buttonId => rfl

theorem not_reaches_of_missing {session : Session} {request : Request} {screenId : String}
    {missing : ScreenNotFound} (hnames : request.screenId? = some screenId)
    (habsent : session.specification.screen screenId = .error missing) (component : Component) :
    ¬ session.Reaches component request := by
  have hnone : ∀ componentId, ¬ session.Finds screenId componentId component := by
    rintro componentId ⟨screen, hscreen, _⟩
    rw [habsent] at hscreen
    cases hscreen
  cases request with
  | view => exact id
  | inputChange other fieldId value =>
    obtain rfl := Option.some.inj hnames
    exact hnone fieldId
  | buttonClick other buttonId =>
    obtain rfl := Option.some.inj hnames
    exact fun h => hnone buttonId h.1

theorem get?_values_change (session : Session) (component : Component) (value key : String) :
    (session.change component value).state.values.get? key =
      (if component.textField?.isSome ∧ component.bindingKey = key then some value else none).or
        (session.state.values.get? key) := by
  unfold change
  cases component.textField? with
  | none => simp
  | some field =>
    show ((session.state.setValue component.bindingKey value).setError _ _).values.get? key = _
    rw [State.values_setError, State.setValue, Bindings.get?_insert]
    by_cases hkey : component.bindingKey = key
    · simp [hkey]
    · simp [hkey, Ne.symm hkey]

/-- A request stores what it writes, and leaves what it does not write. -/
theorem get?_values_after {session : Session} (h : session.specification.DistinctIds)
    (request : Request) (key : String) :
    (session.after request).state.values.get? key =
      (session.written? key request).or (session.state.values.get? key) := by
  rw [state_after]
  generalize hturn : session.apply request = turn
  have hacts : session.Acts request turn := hturn ▸ session.acts_apply request
  cases hacts with
  | missing names absent =>
    rw [written?_of_not_reaches h (not_reaches_of_missing names absent)]
    rfl
  | idle log known aimless =>
    rw [written?_of_not_reaches h aimless]
    rfl
  | change found => rw [get?_values_change, written?_of_finds h found]
  | trigger found button =>
    rw [values_trigger]
    rfl

/-! ## Runs of requests -/

/-- After requests, the last value written under a key is stored, else what was stored before. -/
theorem get?_values_serve {session : Session} (h : session.specification.DistinctIds)
    (requests : List Request) (key : String) :
    (session.serve requests).state.values.get? key =
      (session.writes key requests).getLast?.or (session.state.values.get? key) := by
  induction requests generalizing session with
  | nil => rfl
  | cons request requests ih =>
    have hlater := @ih (session.after request) h
    rw [serve_cons, hlater, get?_values_after h, writes, List.getLast?_append]
    cases session.written? key request <;> simp

/-- **Values.** In a session on what a document resolves to, a run of requests stores under a key
the last value that it writes under the key, and nothing if it writes none; and a request that comes
next changes nothing under the keys that it does not write. -/
theorem stored_serve {document : Document} {override start : Option String} {spec : Specification}
    {assets : Assets} {session : Session} (hresolve : document.resolve override = .ok spec)
    (hstart : Session.start spec assets start = .ok session) (requests : List Request)
    (key : String) :
    (session.serve requests).state.values.get? key = (session.writes key requests).getLast? ∧
      ∀ next, (session.serve requests).written? key next = none →
        ((session.serve requests).after next).state.values.get? key =
          (session.serve requests).state.values.get? key := by
  have hids := distinctIds_of_resolve hresolve
  obtain rfl := eq_of_start hstart
  constructor
  · rw [get?_values_serve hids]
    exact Option.or_none
  · intro next hnext
    rw [get?_values_after (by rw [specification_serve]; exact hids), hnext]
    rfl

/-- Two screens with a field for the same key. A click on the first one leads to the second and then
checks the key, by the field of the first. -/
def sharedKey : Document where
  info := none
  screens := [
    ⟨"form", none, none, .standard, [
      ⟨"name", .textField ⟨none, none, some "user", .text, true, ⟨none⟩⟩⟩,
      ⟨"note", .textField ⟨none, none, none, .text, false, ⟨none⟩⟩⟩,
      ⟨"next", .button ⟨"Next", none, none, none⟩⟩]⟩,
    ⟨"again", none, none, .standard, [
      ⟨"nick", .textField ⟨none, none, some "user", .text, false, ⟨none⟩⟩⟩]⟩]
  rules := [⟨"leave", none, none, "next.click", [],
    [.start ⟨"store", .empty, some "stored", none⟩, .validate ⟨["user"], none, false⟩]⟩]
  transitions := [⟨"t", "stored", "form", "again", false⟩]
  operational := none

/-- Edits of both fields and of another one, a click that leads away, an edit of the screen that was
left, and one of a screen that is not there. -/
def sharedKeyRequests : List Request := [
  .inputChange "form" "name" "Ada",
  .inputChange "form" "note" "Hello",
  .buttonClick "form" "next",
  .inputChange "form" "name" "Late",
  .inputChange "again" "nick" "Eve",
  .inputChange "nowhere" "name" "Lost"]

theorem stored_serve_sharedKey :
    ∃ spec session, sharedKey.resolve none = .ok spec ∧
      Session.start spec .empty none = .ok session ∧
      session.writes "user" sharedKeyRequests = ["Ada", "Eve"] ∧
      (session.serve sharedKeyRequests).state.values.get? "user" = some "Eve" ∧
      ((session.serve sharedKeyRequests).after (.inputChange "again" "note" "")).state.values.get?
        "user" = some "Eve" := by
  obtain ⟨spec, hresolve⟩ : ∃ spec, sharedKey.resolve none = .ok spec := ⟨_, rfl⟩
  obtain ⟨session, hstart, hwrites, hnext⟩ : ∃ session,
      Session.start spec .empty none = .ok session ∧
        session.writes "user" sharedKeyRequests = ["Ada", "Eve"] ∧
        (session.serve sharedKeyRequests).written? "user" (.inputChange "again" "note" "") =
          none := by
    obtain rfl := Except.ok.inj hresolve
    exact ⟨_, rfl, by decide, by decide⟩
  obtain ⟨hstored, hkept⟩ := stored_serve hresolve hstart sharedKeyRequests "user"
  rw [hwrites] at hstored
  exact ⟨spec, session, hresolve, hstart, hwrites, hstored, (hkept _ hnext).trans hstored⟩

end Session

end ScreenFlow
