import ScreenFlow.Specification

/-!
# Looking screens up

The index of a specification is `IndexFits` if it only points to screens of the id it is asked for,
as those of `Specification.make` and of specifications that are read do. A look-up then succeeds
exactly for the ids of the screens, with a screen of that id.
-/

namespace ScreenFlow

/-- If an entry has a property, there is a last one that has it. -/
theorem exists_last {α : Type} {p : α → Prop} {xs : List α} (h : ∃ x ∈ xs, p x) :
    ∃ earlier last later, xs = earlier ++ last :: later ∧ p last ∧ ∀ x ∈ later, ¬ p x := by
  classical
  obtain ⟨x, hmem, hx⟩ := h
  have hsome : (xs.reverse.find? fun x => p x).isSome :=
    List.find?_isSome.2 ⟨x, List.mem_reverse.2 hmem, decide_eq_true hx⟩
  obtain ⟨last, hlast⟩ := Option.isSome_iff_exists.1 hsome
  obtain ⟨hp, later, earlier, hxs, hlater⟩ := List.find?_eq_some_iff_append.1 hlast
  refine ⟨earlier.reverse, last, later.reverse, ?_, of_decide_eq_true hp, ?_⟩
  · rw [List.reverse_eq_iff.1 hxs]
    simp
  · intro x hmem
    simpa using hlater x (List.mem_reverse.1 hmem)

namespace Specification

/-- The index points to no screen of another id. -/
def IndexFits (spec : Specification) : Prop :=
  ∀ id place screen, spec.index.get? id = some place → spec.screens[place]? = some screen →
    screen.id = id

theorem indexFits_unindexed (info : Option Document.Meta) (initialScreen : String)
    (screens : List Screen) (rules : List Rule) (transitions : List Transition) :
    (unindexed info initialScreen screens rules transitions).IndexFits := by
  intro id place screen h
  cases h

theorem indexFits_make (info : Option Document.Meta) (initialScreen : String)
    (screens : List Screen) (rules : List Rule) (transitions : List Transition) :
    (make info initialScreen screens rules transitions).IndexFits := by
  intro id place screen hplace hscreen
  obtain ⟨before, after, hentries, _⟩ := List.lookup_eq_some_iff.1 hplace
  have hmem : (id, place) ∈ (screens.map Screen.id).zip (List.range screens.length) := by
    apply Bindings.mem_of_mem_ofList
    show (id, place) ∈ (make info initialScreen screens rules transitions).index.entries
    rw [hentries]
    exact List.mem_append_right before List.mem_cons_self
  obtain ⟨i, hi, hentry⟩ := List.mem_iff_getElem.1 hmem
  rw [List.getElem_zip, List.getElem_map, List.getElem_range, Prod.mk.injEq] at hentry
  obtain ⟨rfl, rfl⟩ := hentry
  obtain ⟨_, rfl⟩ := List.getElem?_eq_some_iff.1 hscreen
  rfl

variable {spec : Specification} {id : String}

theorem screen_eq_ok_iff {screen : Screen} :
    spec.screen id = .ok screen ↔ spec.screen? id = some screen := by
  unfold Specification.screen
  cases spec.screen? id <;> simp

theorem screen_eq_error_iff {missing : ScreenNotFound} :
    spec.screen id = .error missing ↔ spec.screen? id = none ∧ missing = ⟨id⟩ := by
  unfold Specification.screen
  cases spec.screen? id <;> simp [eq_comm]

theorem screen?_eq_some {screen : Screen} (h : spec.screen? id = some screen) :
    (∃ place, spec.index.get? id = some place ∧ spec.screens[place]? = some screen) ∨
      spec.screens.find? (·.id = id) = some screen := by
  unfold screen? at h
  cases hindex : (spec.index.get? id).bind (spec.screens[·]?) with
  | none =>
    rw [hindex] at h
    exact Or.inr h
  | some found =>
    rw [hindex] at h
    obtain rfl : found = screen := Option.some.inj h
    exact Or.inl (Option.bind_eq_some_iff.1 hindex)

theorem mem_of_screen_eq_ok {screen : Screen} (h : spec.screen id = .ok screen) :
    screen ∈ spec.screens := by
  rcases screen?_eq_some (screen_eq_ok_iff.1 h) with ⟨place, _, hplace⟩ | hfind
  · exact List.mem_of_getElem? hplace
  · exact List.mem_of_find?_eq_some hfind

theorem id_of_screen_eq_ok (hfits : spec.IndexFits) {screen : Screen}
    (h : spec.screen id = .ok screen) : screen.id = id := by
  rcases screen?_eq_some (screen_eq_ok_iff.1 h) with ⟨place, hindex, hplace⟩ | hfind
  · exact hfits id place screen hindex hplace
  · simpa using List.find?_some hfind

theorem exists_screen_of_mem (h : id ∈ spec.screens.map Screen.id) :
    ∃ screen, spec.screen id = .ok screen := by
  obtain ⟨screen, hmem, rfl⟩ := List.mem_map.1 h
  have hfind : (spec.screens.find? (·.id = screen.id)).isSome :=
    List.find?_isSome.2 ⟨screen, hmem, by simp⟩
  obtain ⟨first, hfirst⟩ := Option.isSome_iff_exists.1 hfind
  cases hindex : (spec.index.get? screen.id).bind (spec.screens[·]?) with
  | none => exact ⟨first, screen_eq_ok_iff.2 (by rw [screen?, hindex, hfirst]; rfl)⟩
  | some found => exact ⟨found, screen_eq_ok_iff.2 (by rw [screen?, hindex]; rfl)⟩

/-- A look-up succeeds exactly for the ids of the screens. -/
theorem exists_screen_iff (hfits : spec.IndexFits) :
    (∃ screen, spec.screen id = .ok screen) ↔ id ∈ spec.screens.map Screen.id := by
  refine ⟨?_, exists_screen_of_mem⟩
  rintro ⟨screen, hscreen⟩
  rw [← id_of_screen_eq_ok hfits hscreen]
  exact List.mem_map_of_mem (mem_of_screen_eq_ok hscreen)

/-- A look-up fails exactly for an id that no screen has. -/
theorem screen_eq_error_iff_not_mem (hfits : spec.IndexFits) {missing : ScreenNotFound} :
    spec.screen id = .error missing ↔ id ∉ spec.screens.map Screen.id ∧ missing = ⟨id⟩ := by
  constructor
  · intro h
    refine ⟨fun hmem => ?_, (screen_eq_error_iff.1 h).2⟩
    obtain ⟨screen, hscreen⟩ := exists_screen_of_mem hmem
    rw [hscreen] at h
    cases h
  · rintro ⟨hmem, rfl⟩
    cases h : spec.screen id with
    | error missing => rw [(screen_eq_error_iff.1 h).2]
    | ok screen => exact (hmem ((exists_screen_iff hfits).1 ⟨screen, h⟩)).elim

end Specification

end ScreenFlow
