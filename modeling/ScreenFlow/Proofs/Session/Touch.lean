import ScreenFlow.Proofs.Session.Failure
import ScreenFlow.Proofs.Session.Lockstep
import ScreenFlow.Proofs.Session.Rechecks
import ScreenFlow.Proofs.Session.Values
import ScreenFlow.Proofs.Template.Parts

/-!
# What a request touches

Most requests have nothing to act on, and then nothing happens (`Session.Passes`, `apply_of_passes`).
An edit that reaches a text field touches the value and the error of the key of the field and nothing
else (`Session.Edits`), and what is shown follows suit: a component `Shows` the keys on which its view
hangs, and the view of one that does not show the key of the edit stays as it is
(`ofComponent_congr`).

Resolution makes ids distinct, so an id on the active screen is that of one component. Nothing is asked
of the state, be it one that the session can come to or not.
-/

namespace ScreenFlow

/-! ## What is shown -/

/-- The view of a component hangs on the value or the error of a key. -/
def Component.Shows (component : Component) (key : String) : Prop :=
  match component.kind with
  | .textField _ => component.bindingKey = key
  | .text caption => key ∈ Template.keys caption.text
  | .image _ | .button _ | .spacer _ | .table _ | .unknown => False

theorem View.id_ofComponent (component : Component) (state : State) (assets : Assets) :
    (View.ofComponent component state assets).id = component.id := by
  unfold ofComponent
  cases component.kind <;> rfl

/-- A view hangs on the keys that the component shows. -/
theorem View.ofComponent_congr {component : Component} {state other : State}
    (h : ∀ key, component.Shows key → other.values.get? key = state.values.get? key ∧
      other.errors.get? key = state.errors.get? key) (assets : Assets) :
    ofComponent component other assets = ofComponent component state assets := by
  unfold Component.Shows at h
  unfold ofComponent
  cases hkind : component.kind with
  | textField field =>
    simp only [hkind] at h ⊢
    obtain ⟨hvalue, herror⟩ := h _ rfl
    rw [State.value, State.value, hvalue, herror]
  | text caption =>
    simp only [hkind] at h ⊢
    have hrender : Template.render other.values caption.text =
        Template.render state.values caption.text :=
      Template.render_congr fun key hkey => by rw [(h key hkey).1]
    rw [hrender]
  | image _ => rfl
  | button _ => rfl
  | spacer _ => rfl
  | table _ => rfl
  | unknown => rfl

/-- The component that a request names. -/
def Request.componentId? : Request → Option String
  | view => none
  | inputChange _ fieldId _ => some fieldId
  | buttonClick _ buttonId => some buttonId

namespace Session

/-! ## Requests that pass -/

/-- The component is on the active screen. -/
def Displays (session : Session) (component : Component) : Prop :=
  ∃ screen ∈ session.specification.screens, screen.id = session.state.activeScreen ∧
    component ∈ screen.components

/-- The request has nothing to act on: it asks for a view, it is for another screen than the active
one or for a component that is not there, or the component is not of the kind to be edited or
clicked. -/
inductive Passes (session : Session) : Request → Prop
  | view : session.Passes .view
  | otherScreen {request : Request} {screenId : String} (names : request.screenId? = some screenId)
      (other : screenId ≠ session.state.activeScreen) : session.Passes request
  | absent {request : Request} {id : String} (names : request.componentId? = some id)
      (none : ∀ component, session.Displays component → component.id ≠ id) : session.Passes request
  | noField {screenId value : String} {component : Component} (there : session.Displays component)
      (kind : component.textField? = none) : session.Passes (.inputChange screenId component.id value)
  | noButton {screenId : String} {component : Component} (there : session.Displays component)
      (kind : component.isButton = false) : session.Passes (.buttonClick screenId component.id)

variable {session : Session}

theorem displays_of_finds (h : session.specification.DistinctIds) {screenId componentId : String}
    {component : Component} (hfound : session.Finds screenId componentId component) :
    screenId = session.state.activeScreen ∧ session.Displays component ∧
      component.id = componentId := by
  obtain ⟨hactive, screen, hmem, hid, hcomponent, hname⟩ := (finds_iff h).1 hfound
  exact ⟨hactive, ⟨screen, hmem, hid.trans hactive, hcomponent⟩, hname⟩

theorem displays_unique (h : session.specification.DistinctIds) {component other : Component}
    (hcomponent : session.Displays component) (hother : session.Displays other)
    (hid : component.id = other.id) : component = other := by
  obtain ⟨screen, hmem, hactive, hin⟩ := hcomponent
  obtain ⟨same, hsame, hsameActive, hin'⟩ := hother
  exact finds_unique ((finds_iff h).2 ⟨rfl, screen, hmem, hactive, hin, rfl⟩)
    ((finds_iff h).2 ⟨rfl, same, hsame, hsameActive, hin', hid.symm⟩)

theorem Passes.textField?_eq_none (h : session.specification.DistinctIds)
    {screenId fieldId value : String} {component : Component}
    (hpasses : session.Passes (.inputChange screenId fieldId value))
    (hfound : session.Finds screenId fieldId component) : component.textField? = none := by
  obtain ⟨hactive, hthere, hid⟩ := displays_of_finds h hfound
  cases hpasses with
  | otherScreen names other => exact absurd hactive (Option.some.inj names ▸ other)
  | absent names none => exact absurd hid (Option.some.inj names ▸ none component hthere)
  | noField there kind => rwa [displays_unique h hthere there hid]

theorem Passes.isButton_eq_false (h : session.specification.DistinctIds)
    {screenId buttonId : String} {component : Component}
    (hpasses : session.Passes (.buttonClick screenId buttonId))
    (hfound : session.Finds screenId buttonId component) : component.isButton = false := by
  obtain ⟨hactive, hthere, hid⟩ := displays_of_finds h hfound
  cases hpasses with
  | otherScreen names other => exact absurd hactive (Option.some.inj names ▸ other)
  | absent names none => exact absurd hid (Option.some.inj names ▸ none component hthere)
  | noButton there kind => rwa [displays_unique h hthere there hid]

/-- A request that passes leaves the state and asks for nothing. -/
theorem apply_of_passes (h : session.specification.DistinctIds) {request : Request}
    (hpasses : session.Passes request) :
    (session.apply request).state = session.state ∧ (session.apply request).dispatched = [] := by
  generalize hturn : session.apply request = turn
  have hacts : session.Acts request turn := hturn ▸ session.acts_apply request
  cases hacts with
  | missing names absent => exact ⟨rfl, rfl⟩
  | idle log known aimless => exact ⟨rfl, rfl⟩
  | change found =>
    unfold change
    rw [hpasses.textField?_eq_none h found]
    exact ⟨rfl, rfl⟩
  | trigger found button =>
    rw [hpasses.isButton_eq_false h found] at button
    cases button

/-! ## Edits that reach a field -/

/-- The turn has edited a text field of a screen: it has touched the value and the error of the key of
the field and nothing else, and of what is shown only the views that show the key. -/
structure Edits (session : Session) (screen : Screen) (component : Component) (field : TextField)
    (value : String) (turn : Turn Snapshot) : Prop where
  dispatched : turn.dispatched = []
  activeScreen : turn.state.activeScreen = session.state.activeScreen
  stored : turn.state.values.get? component.bindingKey = some value
  judged : turn.state.errors.get? component.bindingKey = field.error? value
  others : ∀ key, key ≠ component.bindingKey →
    turn.state.values.get? key = session.state.values.get? key ∧
      turn.state.errors.get? key = session.state.errors.get? key
  shown : ∃ before after, session.snapshot = .ok before ∧ turn.answer = .ok after ∧
    before.components.map View.id = screen.components.map Component.id ∧
    after.components.map View.id = screen.components.map Component.id ∧
    ∀ (place : Nat) (other : Component), screen.components[place]? = some other →
      ¬ other.Shows component.bindingKey → after.components[place]? = before.components[place]?

theorem map_id_ofScreen (screen : Screen) (state : State) (assets : Assets) :
    (Snapshot.ofScreen screen state assets).components.map View.id =
      screen.components.map Component.id := by
  simp [Snapshot.ofScreen, View.id_ofComponent]

theorem snapshot_of_screen {screen : Screen}
    (h : session.specification.screen session.state.activeScreen = .ok screen) :
    session.snapshot = .ok (.ofScreen screen session.state session.assets) := by
  unfold snapshot activeScreen
  rw [h]
  rfl

/-- An edit of a text field leaves the values and errors of all other keys. -/
theorem others_change {component : Component} {field : TextField}
    (hfield : component.textField? = some field) (value : String) {key : String}
    (hkey : key ≠ component.bindingKey) :
    (session.change component value).state.values.get? key = session.state.values.get? key ∧
      (session.change component value).state.errors.get? key = session.state.errors.get? key := by
  rw [get?_values_change, error_change hfield, if_neg hkey, if_neg fun hsame => hkey hsame.2.symm]
  exact ⟨rfl, rfl⟩

/-- A request for an edit of a text field on the active screen edits it. -/
theorem edits_handle (h : session.specification.DistinctIds) {screen : Screen}
    (hmem : screen ∈ session.specification.screens)
    (hactive : screen.id = session.state.activeScreen) {component : Component}
    (hcomponent : component ∈ screen.components) {field : TextField}
    (hfield : component.textField? = some field) (value : String) :
    session.Edits screen component field value
      (session.handle (.inputChange screen.id component.id value)) := by
  have hscreen : session.specification.screen session.state.activeScreen = .ok screen :=
    h.screen_eq_ok_iff.2 ⟨hmem, hactive⟩
  have hfound : session.Finds screen.id component.id component :=
    (finds_iff h).2 ⟨hactive, screen, hmem, rfl, hcomponent, rfl⟩
  have hturn : session.apply (.inputChange screen.id component.id value) =
      session.change component value := by
    show session.onTarget screen.id component.id _ = _
    unfold onTarget
    rw [target_of_finds hfound]
  have hstate : (session.handle (.inputChange screen.id component.id value)).state =
      (session.change component value).state := by
    rw [state_handle, hturn]
  have hanswer : (session.handle (.inputChange screen.id component.id value)).answer =
      .ok (.ofScreen screen (session.change component value).state session.assets) := by
    rw [answer_handle, hturn, answer_change]
    refine snapshot_of_screen ?_
    show session.specification.screen (session.change component value).state.activeScreen = _
    rwa [activeScreen_change]
  refine ⟨?_, ?_, ?_, ?_, fun key hkey => ?_, ?_⟩
  · rw [dispatched_handle, hturn]
    unfold change
    rw [hfield]
  · rw [hstate, activeScreen_change]
  · rw [hstate, get?_values_change, hfield]
    simp
  · rw [hstate, error_change hfield, if_pos rfl]
  · rw [hstate]
    exact others_change hfield value hkey
  · refine ⟨_, _, snapshot_of_screen hscreen, hanswer, map_id_ofScreen .., map_id_ofScreen ..,
      fun place other hother hhidden => ?_⟩
    simp only [Snapshot.ofScreen, List.getElem?_map, hother, Option.map_some]
    rw [View.ofComponent_congr fun key hkey => ?_]
    exact others_change hfield value fun hsame => hhidden (hsame ▸ hkey)

/-- **What a request touches.** In a session on what a document resolves to, in any state, a request
with nothing to act on leaves the state and asks for no operation, and an edit of a text field of the
active screen asks for none either and touches the value and the error of its key alone, and of the
snapshot only the views that show the key. -/
theorem handle_touches {document : Document} {override : Option String} {session : Session}
    (hresolve : document.resolve override = .ok session.specification) :
    (∀ request, session.Passes request →
      (session.handle request).state = session.state ∧
        (session.handle request).dispatched = []) ∧
      ∀ screen ∈ session.specification.screens, screen.id = session.state.activeScreen →
        ∀ component ∈ screen.components, ∀ field, component.textField? = some field → ∀ value,
          session.Edits screen component field value
            (session.handle (.inputChange screen.id component.id value)) := by
  have hids := distinctIds_of_resolve hresolve
  refine ⟨fun request hpasses => ?_, fun screen hmem hactive component hcomponent field hfield value =>
    edits_handle hids hmem hactive hcomponent hfield value⟩
  rw [state_handle, dispatched_handle]
  exact apply_of_passes hids hpasses

/-- The data of a field for an address. -/
def mailField : TextField := ⟨none, none, none, .email, false, ⟨none⟩⟩

/-- That field on a screen. -/
def mail : Component := ⟨"mail", .textField mailField⟩

/-- A text with a token of another key. -/
def greeting : Component := ⟨"greeting", .text ⟨"Hello, \x7b\x7b name \x7d\x7d!", none, none⟩⟩

/-- A text with a token of the key of that field. -/
def reminder : Component := ⟨"reminder", .text ⟨"Write to \x7b\x7bmail\x7d\x7d", none, none⟩⟩

/-- A screen with both texts, a field for each key and a button. -/
def profileScreen : Screen :=
  ⟨"profile", none, none, .standard, [greeting, reminder, mail,
    ⟨"first", .textField ⟨none, none, some "name", .text, true, ⟨none⟩⟩⟩,
    ⟨"save", .button ⟨"Save", none, none, none⟩⟩]⟩

/-- The document of that screen. -/
def profile : Document where
  info := none
  screens := [profileScreen]
  rules := []
  transitions := []
  operational := none

/-- A click on the field passes. An edit of it is refused and kept, and touches the second text but not
the first one. -/
theorem handle_touches_profile :
    ∃ session : Session, profile.resolve none = .ok session.specification ∧
      start session.specification .empty none = .ok session ∧
      session.Passes (.buttonClick "profile" mail.id) ∧
      (session.handle (.buttonClick "profile" mail.id)).state = session.state ∧
      (session.handle (.buttonClick "profile" mail.id)).dispatched = [] ∧
      profileScreen ∈ session.specification.screens ∧
      profileScreen.id = session.state.activeScreen ∧ mail ∈ profileScreen.components ∧
      mail.textField? = some mailField ∧ mailField.error? "ada" = some Violation.noAddress.message ∧
      reminder.Shows mail.bindingKey ∧ ¬ greeting.Shows mail.bindingKey ∧
      session.Edits profileScreen mail mailField "ada"
        (session.handle (.inputChange profileScreen.id mail.id "ada")) := by
  obtain ⟨session, hresolve, hstart, hscreen, hactive⟩ : ∃ session : Session,
      profile.resolve none = .ok session.specification ∧
        start session.specification .empty none = .ok session ∧
        profileScreen ∈ session.specification.screens ∧
        profileScreen.id = session.state.activeScreen := by
    obtain ⟨spec, hresolve⟩ : ∃ spec, profile.resolve none = .ok spec := ⟨_, rfl⟩
    refine ⟨⟨spec, .empty, .initial "profile"⟩, hresolve, ?_, ?_, rfl⟩
    · obtain rfl := Except.ok.inj hresolve
      rfl
    · obtain rfl := Except.ok.inj hresolve
      exact List.mem_cons_self
  have hmail : mail ∈ profileScreen.components := by decide
  have hpasses : session.Passes (.buttonClick "profile" mail.id) :=
    .noButton ⟨profileScreen, hscreen, hactive, hmail⟩ rfl
  obtain ⟨hidle, hedits⟩ := handle_touches hresolve
  obtain ⟨hstate, hdispatched⟩ := hidle _ hpasses
  have hreminder : reminder.Shows mail.bindingKey := by
    show "mail" ∈ Template.keys "Write to \x7b\x7bmail\x7d\x7d"
    decide +kernel
  have hgreeting : ¬ greeting.Shows mail.bindingKey := by
    show "mail" ∉ Template.keys "Hello, \x7b\x7b name \x7d\x7d!"
    decide +kernel
  exact ⟨session, hresolve, hstart, hpasses, hstate, hdispatched, hscreen, hactive, hmail, rfl,
    by decide, hreminder, hgreeting,
    hedits profileScreen hscreen hactive mail hmail mailField rfl "ada"⟩

end Session

end ScreenFlow
