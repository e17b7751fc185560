import ScreenFlow.Proofs.Codec.RoundTrip
import ScreenFlow.Proofs.Identity
import ScreenFlow.Proofs.Session.Lookalike
import ScreenFlow.Proofs.Session.Values

/-!
# Sessions on a copy

A specification that is written and read again has lost its index. It says the same
(`Specification.Same`), but that alone does not make sessions on it run alike: of two screens with
one id the index finds the last and a search the first.

1. The copy of what a document resolves to looks screens up alike, since ids are distinct, and has
   the same rules and transitions (`Specification.Agrees`).
2. So no session can tell the two apart (`Specification.Lookalike`), and sessions on them have the
   same turns (`behaves_copy`).
-/

namespace ScreenFlow

/-- Screens are looked up alike, and rules and transitions are the same. -/
structure Specification.Agrees (copy spec : Specification) : Prop where
  screen : ∀ id, copy.screen id = spec.screen id
  initialScreen : copy.initialScreen = spec.initialScreen
  rules : copy.rules = spec.rules
  transitions : copy.transitions = spec.transitions

theorem Specification.Agrees.lookalike {copy spec : Specification} (h : copy.Agrees spec) :
    copy.Lookalike spec where
  screen := h.screen
  rulesFor := fun _ _ => by
    unfold rulesFor
    rw [h.rules]
  target? := fun _ _ => by
    unfold target? transition?
    rw [h.transitions]

namespace Session

theorem agrees_unindexed {spec : Specification} (h : spec.DistinctIds) :
    (Specification.unindexed spec.info spec.initialScreen spec.screens spec.rules
      spec.transitions).Agrees spec where
  screen := Specification.screen_congr h
    ⟨Specification.indexFits_unindexed _ _ _ _ _, h.screens, h.components⟩ (.refl _)
  initialScreen := rfl
  rules := rfl
  transitions := rfl

/-- **Copies.** What a document resolves to can be written as JSON and read again, as a value or by
the members as they are written. The copy has no index and says the same, and sessions on it start
and go on as those on the original: they miss the same screen, or start in the same state, and have
the same turns whatever is requested. -/
theorem behaves_copy {document : Document} {override : Option String} {spec : Specification}
    (hresolve : document.resolve override = .ok spec) :
    ∃ copy, Specification.reader.ofValue (.ofJson spec.write) = .ok copy ∧
      (∀ origin, Specification.reader origin (.ofJson spec.write) = .ok copy) ∧
      copy.index = .empty ∧ copy.Same spec ∧
      ∀ assets initial requests,
        (start copy assets initial).map (fun session => (session.state, session.turns requests)) =
          (start spec assets initial).map
            (fun session => (session.state, session.turns requests)) := by
  have hread := spec.recovers_unindexed
  refine ⟨_, hread .ordered .value, hread .written, rfl, ⟨rfl, rfl, rfl, rfl, rfl⟩, ?_⟩
  have hagrees := agrees_unindexed (distinctIds_of_resolve hresolve)
  exact hagrees.lookalike.behaves hagrees.initialScreen

theorem behaves_copy_sharedKey :
    ∃ spec copy, sharedKey.resolve none = .ok spec ∧ spec.index ≠ copy.index ∧
      Specification.reader.ofValue (.ofJson spec.write) = .ok copy ∧ copy.Same spec ∧
      (start copy .empty none).map
          (fun session => (session.state, session.turns sharedKeyRequests)) =
        (start spec .empty none).map
          (fun session => (session.state, session.turns sharedKeyRequests)) := by
  obtain ⟨spec, hresolve, hindex⟩ : ∃ spec, sharedKey.resolve none = .ok spec ∧
      spec.index ≠ .empty := ⟨_, rfl, by decide⟩
  obtain ⟨copy, hread, _, hcopy, hsame, halike⟩ := behaves_copy hresolve
  exact ⟨spec, copy, hresolve, hcopy ▸ hindex, hread, hsame, halike .empty none sharedKeyRequests⟩

end Session

end ScreenFlow
