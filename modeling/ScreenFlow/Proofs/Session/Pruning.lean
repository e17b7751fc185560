import ScreenFlow.Proofs.Event.Pruning
import ScreenFlow.Proofs.Session.Lockstep

/-!
# Sessions without what is not understood

What a specification holds and no session understands can be left out of it
(`Specification.pruned`), and no host can tell but by the reports: whatever it requests, it meets the
same states, gets the same snapshots or misses the same screens, and is asked for the same operations
(`behaves_pruned`). A rule of which no step is left still counts as one that reacts to its event, and
a check of which no key is left fails for no value, so it does not end the chain of rules.
-/

namespace ScreenFlow

/-- All of a turn but its reports. -/
def Turn.withoutLog {α : Type} (turn : Turn α) : Turn α := { turn with log := [] }

theorem Turn.withoutLog_eq_iff {α : Type} {turn other : Turn α} :
    turn.withoutLog = other.withoutLog ↔
      turn.state = other.state ∧ turn.answer = other.answer ∧
        turn.dispatched = other.dispatched := by
  simp [withoutLog]

namespace Session

theorem inStep_pruned (session : Session) :
    session.InStep (session.withSpecification session.specification.pruned) :=
  ⟨fun _ => rfl, rfl⟩

theorem trigger_pruned (session : Session) (component : Component) :
    ((session.withSpecification session.specification.pruned).trigger component).withoutLog =
      (session.trigger component).withoutLog := by
  have hevent := handleEvent_pruned session.specification session.state (clickOf component)
  unfold trigger withSpecification
  dsimp only
  rcases eq_of_map_eq_map hevent with
    ⟨missing, hpruned, hfull⟩ | ⟨pruned, full, hpruned, hfull, hsame⟩
  · rw [hpruned, hfull]
  · injection hsame with hstate _ _ _ hdispatched
    rw [hpruned, hfull, Turn.withoutLog_eq_iff]
    exact ⟨hstate, rfl, hdispatched⟩

theorem apply_pruned (session : Session) (request : Request) :
    ((session.withSpecification session.specification.pruned).apply request).withoutLog =
      (session.apply request).withoutLog :=
  session.inStep_pruned.apply (fun turn pruned => pruned.withoutLog = turn.withoutLog)
    (fun _ _ => rfl) (fun _ _ => rfl) session.trigger_pruned request

end Session

/-- Requests have the same turns on the pruned specification, but for the reports. -/
theorem Specification.servesLike_pruned (spec : Specification) :
    spec.pruned.ServesLike Turn.withoutLog spec := by
  rintro session rfl request
  obtain ⟨hstate, hanswer, hdispatched⟩ :=
    Turn.withoutLog_eq_iff.1 (session.apply_pruned request)
  rw [Turn.withoutLog_eq_iff]
  refine ⟨?_, ?_, ?_⟩
  · rw [Session.state_handle, Session.state_handle, hstate]
  · rw [Session.answer_handle, Session.answer_handle, hanswer, hstate]
    rfl
  · rw [Session.dispatched_handle, Session.dispatched_handle, hdispatched]

namespace Session

/-- **Leaving out what is not understood.** Sessions on a specification, and on the one without
guards of unknown comparators, unsupported steps and checks of keys that no text field is bound to,
miss the same screen or start in the same state, and have the same turns but for the reports,
whatever is requested. -/
theorem behaves_pruned (spec : Specification) (assets : Assets) (initial : Option String)
    (requests : List Request) :
    (start spec.pruned assets initial).map
        (fun session => (session.state, (session.turns requests).map Turn.withoutLog)) =
      (start spec assets initial).map
        (fun session => (session.state, (session.turns requests).map Turn.withoutLog)) := by
  refine behaves_of_servesLike spec.servesLike_pruned (fun turn other h => ?_) (fun _ => rfl) rfl
    assets initial requests
  exact (Turn.withoutLog_eq_iff.1 h).1

example : Rule.pruned .checkedForm
    ⟨"later", .global, "save.click", [⟨"name", .ofName "matches", .null⟩, ⟨"name", .isEmpty, .null⟩],
      [.unsupported, .validate ⟨["name", "nick"], none, true⟩, .validate ⟨["nick"], none, true⟩]⟩ =
    ⟨"later", .global, "save.click", [⟨"name", .isEmpty, .null⟩],
      [.validate ⟨["name"], none, true⟩, .validate ⟨[], none, true⟩]⟩ := by decide

end Session

end ScreenFlow
