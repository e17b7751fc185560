import ScreenFlow.Proofs.Session.Run

/-!
# Sessions in lockstep

Two sessions are in step if they look screens up alike and are on the same screen. A request then
finds the same component in both, or none in both, so what it comes to is the same up to what the two
sessions make of an edit and of a click (`InStep.apply`): whatever relates the turns of those relates
the turns of the request.

The two sessions may be on different specifications, or in different states. Where each request has
the same turn on two specifications, so far as some observation tells, so have all runs of requests
(`map_turns_withSpecification`).
-/

namespace ScreenFlow

namespace Session

/-- Two sessions look screens up alike and are on the same screen. -/
structure InStep (session other : Session) : Prop where
  screen : ∀ id, other.specification.screen id = session.specification.screen id
  activeScreen : other.state.activeScreen = session.state.activeScreen

/-! ## One request -/

section Requests

variable {session other : Session} (h : session.InStep other)

include h

theorem InStep.target (screenId componentId : String) :
    other.target screenId componentId = session.target screenId componentId := by
  unfold Session.target
  rw [h.screen, h.activeScreen]

theorem InStep.answer_activeScreen : other.activeScreen = session.activeScreen := by
  unfold Session.activeScreen
  rw [h.screen, h.activeScreen]

variable (Related : Turn Unit → Turn Unit → Prop)
  (stay : ∀ answer log,
    Related ⟨session.state, answer, [], log⟩ ⟨other.state, answer, [], log⟩)

include stay

theorem InStep.onTarget (screenId componentId : String) {act act' : Component → Turn Unit}
    (hact : ∀ component, Related (act component) (act' component)) :
    Related (session.onTarget screenId componentId act)
      (other.onTarget screenId componentId act') := by
  unfold Session.onTarget
  rw [h.target]
  rcases session.target screenId componentId with missing | ⟨_ | component, log⟩
  · exact stay (.error missing) []
  · exact stay (.ok ()) log
  · exact hact component

/-- A request comes to the same in both, up to what they make of edits and of clicks. -/
theorem InStep.apply
    (change : ∀ component value,
      Related (session.change component value) (other.change component value))
    (trigger : ∀ component, Related (session.trigger component) (other.trigger component))
    (request : Request) : Related (session.apply request) (other.apply request) := by
  cases request with
  | view => exact stay (.ok ()) []
  | inputChange screenId fieldId value =>
    exact h.onTarget Related stay screenId fieldId fun component => change component value
  | buttonClick screenId buttonId =>
    refine h.onTarget Related stay screenId buttonId fun component => ?_
    cases component.isButton with
    | true => exact trigger component
    | false => exact stay (.ok ()) [.clickIgnored buttonId]

end Requests

/-- A request succeeds with what is shown after the turn that it asks for. -/
theorem answer_handle (session : Session) (request : Request) :
    (session.handle request).answer =
      (session.apply request).answer.bind fun _ =>
        (session.withState (session.apply request).state).snapshot := by
  unfold handle
  cases hanswer : (session.apply request).answer with
  | error missing => simp only [hanswer, Except.bind]
  | ok _ => simp only [hanswer, Except.bind]

end Session

/-! ## Runs of requests on another specification -/

namespace Session

/-- The session on another specification. -/
def withSpecification (session : Session) (spec : Specification) : Session :=
  { session with specification := spec }

end Session

/-- Requests have the same turns on one specification as on the other, as far as `seen` tells. -/
def Specification.ServesLike {α : Type} (seen : Turn Snapshot → α) (copy spec : Specification) :
    Prop :=
  ∀ session : Session, session.specification = spec → ∀ request,
    seen ((session.withSpecification copy).handle request) = seen (session.handle request)

namespace Session

variable {α : Type} {seen : Turn Snapshot → α} {copy spec : Specification}

theorem map_turns_withSpecification (h : copy.ServesLike seen spec)
    (hstate : ∀ turn other, seen turn = seen other → turn.state = other.state)
    {session : Session} (hspec : session.specification = spec) (requests : List Request) :
    ((session.withSpecification copy).turns requests).map seen =
      (session.turns requests).map seen := by
  induction requests generalizing session with
  | nil => rfl
  | cons request requests ih =>
    have hturn := h session hspec request
    have hafter : (session.withSpecification copy).after request =
        (session.after request).withSpecification copy := by
      show (session.withSpecification copy).withState
        ((session.withSpecification copy).handle request).state = _
      rw [hstate _ _ hturn]
      rfl
    have hlater := @ih (session.after request) hspec
    rw [turns, turns, List.map_cons, List.map_cons, hturn, hafter, hlater]

theorem start_withSpecification (hscreen : ∀ id, copy.screen id = spec.screen id)
    (hinitial : copy.initialScreen = spec.initialScreen) (assets : Assets)
    (initial : Option String) :
    start copy assets initial = (start spec assets initial).map (·.withSpecification copy) := by
  unfold start
  simp only [hinitial, hscreen]
  cases spec.screen (initial.getD spec.initialScreen) <;> rfl

/-- Sessions start alike and have the same turns, as far as `seen` tells. -/
theorem behaves_of_servesLike (h : copy.ServesLike seen spec)
    (hstate : ∀ turn other, seen turn = seen other → turn.state = other.state)
    (hscreen : ∀ id, copy.screen id = spec.screen id)
    (hinitial : copy.initialScreen = spec.initialScreen) (assets : Assets)
    (initial : Option String) (requests : List Request) :
    (start copy assets initial).map
        (fun session => (session.state, (session.turns requests).map seen)) =
      (start spec assets initial).map
        (fun session => (session.state, (session.turns requests).map seen)) := by
  rw [start_withSpecification hscreen hinitial]
  cases hstart : start spec assets initial with
  | error missing => rfl
  | ok session =>
    obtain rfl := eq_of_start hstart
    show Except.ok (_, _) = Except.ok (_, _)
    rw [map_turns_withSpecification h hstate rfl]
    rfl

end Session

end ScreenFlow
