import Mathlib.Data.List.Nodup
import ScreenFlow.Proofs.Lookup
import ScreenFlow.Proofs.Resolution

/-!
# Ids that stand for one thing

In a specification with `DistinctIds` an id is that of at most one screen, and on a screen of at
most one component. Resolution only makes such ones (`distinctIds_of_resolve`). A look-up of an id
then finds whatever has it, be it through the index or by a search from the front: specifications
with the same screens, in any order, look them up alike (`screen_congr`).
-/

namespace ScreenFlow

/-- Where keys are distinct, a search for one finds whatever has it. -/
theorem find?_eq_some_iff_of_nodup {α : Type} {key : α → String} {xs : List α}
    (h : (xs.map key).Nodup) {name : String} {x : α} :
    xs.find? (key · = name) = some x ↔ x ∈ xs ∧ key x = name := by
  constructor
  · intro hfind
    exact ⟨List.mem_of_find?_eq_some hfind, by simpa using List.find?_some hfind⟩
  · rintro ⟨hmem, rfl⟩
    have hsome : (xs.find? (key · = key x)).isSome := List.find?_isSome.2 ⟨x, hmem, by simp⟩
    obtain ⟨first, hfirst⟩ := Option.isSome_iff_exists.1 hsome
    have hkey : key first = key x := by simpa using List.find?_some hfirst
    rw [hfirst, List.inj_on_of_nodup_map h (List.mem_of_find?_eq_some hfirst) hmem hkey]

/-- Ids of screens are distinct, ids of components on a screen are, and the index respects them. -/
structure Specification.DistinctIds (spec : Specification) : Prop where
  indexFits : spec.IndexFits
  screens : (spec.screens.map Screen.id).Nodup
  components : ∀ screen ∈ spec.screens, (screen.components.map Component.id).Nodup

theorem distinctIds_of_resolve {document : Document} {initial : Option String}
    {spec : Specification} (h : document.resolve initial = .ok spec) : spec.DistinctIds := by
  have hlocks := Document.locksTo_of_resolve h
  have hformed := Document.wellFormed_of_resolve h
  refine ⟨?_, ?_, ?_⟩
  · rw [hlocks.index]
    exact Specification.indexFits_make _ _ _ _ _
  · rw [hlocks.screens]
    exact hformed.screens_distinct
  · rw [hlocks.screens]
    exact hformed.components_distinct

namespace Specification

variable {spec : Specification}

theorem DistinctIds.screen_eq_ok_iff (h : spec.DistinctIds) {id : String} {screen : Screen} :
    spec.screen id = .ok screen ↔ screen ∈ spec.screens ∧ screen.id = id := by
  constructor
  · intro hscreen
    exact ⟨mem_of_screen_eq_ok hscreen, id_of_screen_eq_ok h.indexFits hscreen⟩
  · rintro ⟨hmem, rfl⟩
    obtain ⟨found, hfound⟩ := exists_screen_of_mem (List.mem_map_of_mem hmem)
    have hid := id_of_screen_eq_ok h.indexFits hfound
    rw [hfound, List.inj_on_of_nodup_map h.screens (mem_of_screen_eq_ok hfound) hmem hid]

/-- With the same screens, all of different ids, a look-up depends neither on the index nor on the
order of the screens. -/
theorem screen_congr {other : Specification} (h : spec.DistinctIds) (hother : other.DistinctIds)
    (hscreens : other.screens.Perm spec.screens) (id : String) :
    other.screen id = spec.screen id := by
  cases hfound : spec.screen id with
  | ok screen => rw [hother.screen_eq_ok_iff, hscreens.mem_iff, ← h.screen_eq_ok_iff, hfound]
  | error missing =>
    rw [screen_eq_error_iff_not_mem hother.indexFits, (hscreens.map Screen.id).mem_iff,
      ← screen_eq_error_iff_not_mem h.indexFits, hfound]

theorem DistinctIds.component?_eq_some_iff (h : spec.DistinctIds) {screen : Screen}
    (hscreen : screen ∈ spec.screens) {id : String} {component : Component} :
    screen.component? id = some component ↔
      component ∈ screen.components ∧ component.id = id :=
  find?_eq_some_iff_of_nodup (h.components screen hscreen)

end Specification

end ScreenFlow
