import Mathlib.Data.List.Induction
import Mathlib.Data.List.Nodup
import ScreenFlow.Proofs.Lookup

/-!
# Screens that share an id

Only resolution keeps screens from sharing an id. Where some do, it matters how an id is looked up.

1. Screens are indexed from the front, and each takes the place of an earlier one of its id
   (`index_make_concat`). What is left under an id is the place of its last screen, whatever comes
   behind that (`get?_index_make`).
2. So an indexed specification finds the last screen of an id (`screen_make_eq_ok_iff`), and one
   without an index, which is searched from the front, finds the first (`screen_unindexed_eq_ok_iff`).
3. Both find a screen for the same ids. They find the same ones exactly if of every id the first
   screen equals the last (`forall_screen_eq_iff`).
-/

namespace ScreenFlow

/-- A screen is the first of the screens with an id. -/
structure FirstOf (screens : List Screen) (id : String) (screen : Screen) : Prop where
  named : screen.id = id
  first : ∃ earlier later, screens = earlier ++ screen :: later ∧ ∀ other ∈ earlier, other.id ≠ id

/-- A screen is the last of the screens with an id. -/
structure LastOf (screens : List Screen) (id : String) (screen : Screen) : Prop where
  named : screen.id = id
  last : ∃ earlier later, screens = earlier ++ screen :: later ∧ ∀ other ∈ later, other.id ≠ id

section Occurrences

variable {screens : List Screen} {id : String} {screen : Screen}

theorem FirstOf.mem (h : FirstOf screens id screen) : screen ∈ screens := by
  obtain ⟨earlier, later, rfl, _⟩ := h.first
  exact List.mem_append_right _ List.mem_cons_self

theorem LastOf.mem (h : LastOf screens id screen) : screen ∈ screens := by
  obtain ⟨earlier, later, rfl, _⟩ := h.last
  exact List.mem_append_right _ List.mem_cons_self

theorem exists_lastOf (h : id ∈ screens.map Screen.id) : ∃ last, LastOf screens id last := by
  obtain ⟨earlier, last, later, hscreens, hlast, hlater⟩ :=
    exists_last (p := fun screen : Screen => screen.id = id) (List.mem_map.1 h)
  exact ⟨last, hlast, earlier, later, hscreens, hlater⟩

/-- With distinct ids, the first and the last screen of an id are the one that has it. -/
theorem FirstOf.eq_last (hdistinct : (screens.map Screen.id).Nodup) {last : Screen}
    (h : FirstOf screens id screen) (hlast : LastOf screens id last) : screen = last :=
  List.inj_on_of_nodup_map hdistinct h.mem hlast.mem (h.named.trans hlast.named.symm)

end Occurrences

namespace Specification

section Finding

variable {info : Option Document.Meta} {initialScreen : String} {screens : List Screen}
  {rules : List Rule} {transitions : List Transition} {id : String}

/-! ## From the front -/

/-- Without an index, an id is that of its first screen. -/
theorem screen_unindexed_eq_ok_iff {screen : Screen} :
    (unindexed info initialScreen screens rules transitions).screen id = .ok screen ↔
      FirstOf screens id screen := by
  have hscan : (unindexed info initialScreen screens rules transitions).screen? id =
      screens.find? (·.id = id) := rfl
  rw [screen_eq_ok_iff, hscan, List.find?_eq_some_iff_append, decide_eq_true_eq]
  simp only [Bool.not_eq_true', decide_eq_false_iff_not]
  constructor
  · rintro ⟨hnamed, hfirst⟩
    exact ⟨hnamed, hfirst⟩
  · intro h
    exact ⟨h.named, h.first⟩

/-! ## Through the index -/

/-- The last screen of a list is indexed last, in the place of any other screen of its id. -/
theorem index_make_concat (screen : Screen) :
    (make info initialScreen (screens ++ [screen]) rules transitions).index =
      (make info initialScreen screens rules transitions).index.insert screen.id screens.length := by
  have hentries : ((screens ++ [screen]).map Screen.id).zip
      (List.range (screens ++ [screen]).length) =
        (screens.map Screen.id).zip (List.range screens.length) ++ [(screen.id, screens.length)] := by
    rw [List.map_append, List.length_append, List.length_singleton, List.range_succ,
      List.zip_append (by rw [List.length_map, List.length_range])]
    rfl
  show Bindings.ofList _ = (Bindings.ofList _).insert _ _
  rw [hentries, Bindings.ofList_concat]

/-- The index holds the place of a screen that no screen of its id follows. -/
theorem get?_index_make {earlier later : List Screen} {screen : Screen}
    (h : ∀ other ∈ later, other.id ≠ screen.id) :
    (make info initialScreen (earlier ++ screen :: later) rules transitions).index.get? screen.id =
      some earlier.length := by
  -- Taken from the back, what follows is indexed after the screen, and under other ids.
  induction later using List.reverseRecOn with
  | nil => rw [index_make_concat, Bindings.get?_insert_self]
  | append_singleton later other ih =>
    have hother : screen.id ≠ other.id := (h other List.mem_concat_self).symm
    have hlater : ∀ other ∈ later, other.id ≠ screen.id := fun other hmem =>
      h other (List.mem_append_left _ hmem)
    rw [← List.cons_append, ← List.append_assoc, index_make_concat, Bindings.get?_insert,
      if_neg hother, ih hlater]

theorem screen_make_of_lastOf {screen : Screen} (h : LastOf screens id screen) :
    (make info initialScreen screens rules transitions).screen id = .ok screen := by
  obtain ⟨rfl, earlier, later, rfl, hlater⟩ := h
  have hplace : (make info initialScreen (earlier ++ screen :: later) rules transitions).screens[
      earlier.length]? = some screen := by
    show (earlier ++ screen :: later)[earlier.length]? = some screen
    rw [List.getElem?_append_right (Nat.le_refl _), Nat.sub_self, List.getElem?_cons_zero]
  rw [screen_eq_ok_iff, screen?, get?_index_make hlater, Option.bind_some, hplace]
  rfl

/-- With an index, an id is that of its last screen. -/
theorem screen_make_eq_ok_iff {screen : Screen} :
    (make info initialScreen screens rules transitions).screen id = .ok screen ↔
      LastOf screens id screen := by
  refine ⟨fun h => ?_, screen_make_of_lastOf⟩
  have hmem : id ∈ screens.map Screen.id :=
    (exists_screen_iff (indexFits_make _ _ _ _ _)).1 ⟨screen, h⟩
  obtain ⟨last, hlast⟩ := exists_lastOf hmem
  rw [screen_make_of_lastOf hlast] at h
  rwa [← Except.ok.inj h]

end Finding

/-! ## The two compared -/

/-- A look-up finds the screen that is chosen among those with the id, and fails for an id that no
screen has. -/
structure LooksUp (spec : Specification) (chosen : List Screen → String → Screen → Prop) :
    Prop where
  finds : ∀ id, (∃ screen, spec.screen id = .ok screen) ↔ ∃ screen ∈ spec.screens, screen.id = id
  found : ∀ id screen, spec.screen id = .ok screen ↔ chosen spec.screens id screen
  missing : ∀ id missing, spec.screen id = .error missing ↔
    (∀ screen ∈ spec.screens, screen.id ≠ id) ∧ missing = ⟨id⟩

theorem looksUp_of_indexFits {spec : Specification}
    {chosen : List Screen → String → Screen → Prop} (hfits : spec.IndexFits)
    (hfound : ∀ id screen, spec.screen id = .ok screen ↔ chosen spec.screens id screen) :
    spec.LooksUp chosen := by
  refine ⟨fun id => ?_, hfound, fun id missing => ?_⟩
  · rw [exists_screen_iff hfits, List.mem_map]
  · rw [screen_eq_error_iff_not_mem hfits, List.mem_map]
    simp only [not_exists, not_and]

theorem looksUp_make (info : Option Document.Meta) (initialScreen : String)
    (screens : List Screen) (rules : List Rule) (transitions : List Transition) :
    (make info initialScreen screens rules transitions).LooksUp LastOf :=
  looksUp_of_indexFits (indexFits_make _ _ _ _ _) fun _ _ => screen_make_eq_ok_iff

theorem looksUp_unindexed (info : Option Document.Meta) (initialScreen : String)
    (screens : List Screen) (rules : List Rule) (transitions : List Transition) :
    (unindexed info initialScreen screens rules transitions).LooksUp FirstOf :=
  looksUp_of_indexFits (indexFits_unindexed _ _ _ _ _) fun _ _ => screen_unindexed_eq_ok_iff

section Comparison

variable {indexed scanned : Specification} (hindexed : indexed.LooksUp LastOf)
  (hscanned : scanned.LooksUp FirstOf) (hscreens : scanned.screens = indexed.screens)

include hindexed hscanned hscreens

/-- The same screens are found exactly if of every id the first one equals the last. -/
theorem forall_screen_eq_iff :
    (∀ id, indexed.screen id = scanned.screen id) ↔
      ∀ id first last, FirstOf indexed.screens id first → LastOf indexed.screens id last →
        first = last := by
  constructor
  · intro hsame id first last hfirst hlast
    have hscan := (hscanned.found id first).2 (hscreens ▸ hfirst)
    have hindex := (hindexed.found id last).2 hlast
    rw [hsame, hscan] at hindex
    exact Except.ok.inj hindex
  · intro hsame id
    cases hindex : indexed.screen id with
    | ok last =>
      obtain ⟨first, hfirst⟩ : ∃ first, scanned.screen id = .ok first := by
        rw [hscanned.finds, hscreens, ← hindexed.finds]
        exact ⟨last, hindex⟩
      have hfirstOf := (hscanned.found id first).1 hfirst
      rw [hscreens] at hfirstOf
      rw [hfirst, hsame id first last hfirstOf ((hindexed.found id last).1 hindex)]
    | error missing =>
      rw [hindexed.missing, ← hscreens, ← hscanned.missing] at hindex
      exact hindex.symm

/-- Screens with distinct ids are found alike. -/
theorem screen_eq_of_nodup (hdistinct : (indexed.screens.map Screen.id).Nodup) (id : String) :
    indexed.screen id = scanned.screen id :=
  (forall_screen_eq_iff hindexed hscanned hscreens).2
    (fun _ _ _ hfirst hlast => hfirst.eq_last hdistinct hlast) id

end Comparison

/-- **Look-up, indexed and not.** With and without an index an id is looked up successfully exactly
if some screen has it. An index leads to the last screen of the id, a search to the first. The two
look all ids up alike exactly if of every id these two screens are equal, as they are where ids are
distinct. -/
theorem looksUp_last_or_first (screens : List Screen) (info info' : Option Document.Meta)
    (initialScreen initialScreen' : String) (rules rules' : List Rule)
    (transitions transitions' : List Transition) :
    (make info initialScreen screens rules transitions).LooksUp LastOf ∧
      (unindexed info' initialScreen' screens rules' transitions').LooksUp FirstOf ∧
      ((∀ id, (make info initialScreen screens rules transitions).screen id =
          (unindexed info' initialScreen' screens rules' transitions').screen id) ↔
        ∀ id first last, FirstOf screens id first → LastOf screens id last → first = last) ∧
      ((screens.map Screen.id).Nodup → ∀ id,
        (make info initialScreen screens rules transitions).screen id =
          (unindexed info' initialScreen' screens rules' transitions').screen id) := by
  have hindexed := looksUp_make info initialScreen screens rules transitions
  have hscanned := looksUp_unindexed info' initialScreen' screens rules' transitions'
  exact ⟨hindexed, hscanned, forall_screen_eq_iff hindexed hscanned rfl,
    screen_eq_of_nodup hindexed hscanned rfl⟩

/-- Two forms of one id. -/
example :
    let form := fun title => Screen.mk "form" (some title) none .standard []
    let screens := [form "old", form "new"]
    ((make none "form" screens [] []).screen? "form").bind Screen.title = some "new" ∧
      ((unindexed none "form" screens [] []).screen? "form").bind Screen.title = some "old" := by
  decide

end Specification

end ScreenFlow
