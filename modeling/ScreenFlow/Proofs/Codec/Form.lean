import Mathlib.Data.List.Nodup
import ScreenFlow.Draft

/-!
# The forms of a written value

A value is written with its members in the order of its fields. In a text they stay in that order;
in a value that is kept, every object is in key order. An object with one member of each name lays
out the same members in both forms, none of them damaged (`exists_lays`).
-/

namespace ScreenFlow

/-! ## Look-ups in lists of members -/

theorem lookup_map_snd {α β : Type} (f : α → β) (name : String) (members : List (String × α)) :
    (members.map fun member => (member.1, f member.2)).lookup name =
      (members.lookup name).map f := by
  induction members with
  | nil => rfl
  | cons member members ih =>
    rw [List.map_cons, Bindings.lookup_cons, Bindings.lookup_cons, ih]
    split <;> rfl

theorem lookup_eq_none_of_notMem {α : Type} {name : String} {members : List (String × α)}
    (h : name ∉ members.map Prod.fst) : members.lookup name = none := by
  rw [List.lookup_eq_none_iff]
  intro member hmember
  rw [bne_iff_ne]
  rintro rfl
  exact h (List.mem_map_of_mem hmember)

namespace Bindings

variable {α : Type}

/-- The only pair of a key stays. -/
theorem get?_insertAll {pairs : List (String × α)} {key : String}
    (h : (pairs.map Prod.fst).count key ≤ 1) (map : Bindings α) :
    (map.insertAll pairs).get? key = (pairs.lookup key).or (map.get? key) := by
  induction pairs generalizing map with
  | nil => rfl
  | cons pair pairs ih =>
    rw [List.map_cons, List.count_cons] at h
    have hstep := ih (Nat.le_trans (Nat.le_add_right _ _) h) (map.insert pair.1 pair.2)
    show ((map.insert pair.1 pair.2).insertAll pairs).get? key = _
    rw [hstep, get?_insert, lookup_cons]
    by_cases hkey : key = pair.1
    · subst hkey
      rw [if_pos (beq_self_eq_true _)] at h
      have hfresh : pair.1 ∉ pairs.map Prod.fst := List.count_eq_zero.1 (by omega)
      rw [if_pos rfl, if_pos rfl, lookup_eq_none_of_notMem hfresh]
      rfl
    · rw [if_neg hkey, if_neg hkey]

theorem get?_ofList {pairs : List (String × α)} {key : String}
    (h : (pairs.map Prod.fst).count key ≤ 1) : (ofList pairs).get? key = pairs.lookup key := by
  show (empty.insertAll pairs).get? key = _
  rw [get?_insertAll h, get?_empty, Option.or_none]

/-- Where the pairs of one key have one value, the key is bound to it. -/
theorem get?_insertAll_eq_some_iff {pairs : List (String × α)} {key : String} {value : α}
    (h : ∀ pair ∈ pairs, ∀ other ∈ pairs, pair.1 = other.1 → pair.2 = other.2)
    (map : Bindings α) :
    (map.insertAll pairs).get? key = some value ↔
      (key, value) ∈ pairs ∨ key ∉ pairs.map Prod.fst ∧ map.get? key = some value := by
  induction pairs generalizing map with
  | nil => simp [insertAll]
  | cons pair pairs ih =>
    have hrest := ih (fun first hfirst second hsecond =>
      h first (List.mem_cons_of_mem _ hfirst) second (List.mem_cons_of_mem _ hsecond))
      (map.insert pair.1 pair.2)
    show ((map.insert pair.1 pair.2).insertAll pairs).get? key = _ ↔ _
    rw [hrest, get?_insert, List.mem_cons, List.map_cons, List.mem_cons, or_assoc]
    by_cases hkey : key = pair.1
    · subst hkey
      rw [if_pos rfl, Option.some.injEq]
      constructor
      · rintro (hmem | ⟨_, rfl⟩)
        · exact .inr (.inl hmem)
        · exact .inl rfl
      · rintro (hpair | hmem | ⟨hfresh, _⟩)
        · by_cases hkeys : pair.1 ∈ pairs.map Prod.fst
          · obtain ⟨other, hother, hsame⟩ := List.mem_map.1 hkeys
            have hvalue := h pair List.mem_cons_self other (List.mem_cons_of_mem _ hother) hsame.symm
            rw [hpair, show pair = other from Prod.ext hsame.symm hvalue]
            exact .inl hother
          · exact .inr ⟨hkeys, (congrArg Prod.snd hpair).symm⟩
        · exact .inl hmem
        · exact absurd (.inl rfl) hfresh
    · have hne : (key, value) ≠ pair := fun hpair => hkey (congrArg Prod.fst hpair)
      rw [if_neg hkey]
      simp only [hne, hkey, false_or]

theorem get?_ofList_eq_some_iff {pairs : List (String × α)} {key : String} {value : α}
    (h : ∀ pair ∈ pairs, ∀ other ∈ pairs, pair.1 = other.1 → pair.2 = other.2) :
    (ofList pairs).get? key = some value ↔ (key, value) ∈ pairs := by
  show (empty.insertAll pairs).get? key = _ ↔ _
  rw [get?_insertAll_eq_some_iff h, get?_empty]
  exact or_iff_left fun hempty => nomatch hempty.2

theorem nodup_keys (map : Bindings α) : (map.entries.map Prod.fst).Nodup := by
  rw [List.Nodup, List.pairwise_map]
  refine map.sorted.imp ?_
  rintro entry other hlt heq
  exact String.lt_irrefl _ (heq ▸ hlt)

end Bindings

/-! ## Parts of a written value -/

namespace Json

theorem normalizeItems_eq_map (items : List Json) : normalizeItems items = items.map normalize := by
  induction items with
  | nil => rfl
  | cons item items ih => rw [normalizeItems, ih, List.map_cons]

theorem normalizeMembers_eq_map (members : List (String × Json)) :
    normalizeMembers members = members.map fun member => (member.1, normalize member.2) := by
  induction members with
  | nil => rfl
  | cons member members ih => rw [normalizeMembers, ih, List.map_cons]

end Json

namespace Draft

theorem ofItems_eq_map (items : List Json) : ofItems items = items.map ofJson := by
  induction items with
  | nil => rfl
  | cons item items ih => rw [ofItems, ih, List.map_cons]

theorem ofMembers_eq_map (members : List (String × Json)) :
    ofMembers members = members.map fun member => (member.1, ofJson member.2) := by
  induction members with
  | nil => rfl
  | cons member members ih => rw [ofMembers, ih, List.map_cons]

mutual

@[simp] theorem skipFault_ofJson : ∀ value : Json, (ofJson value).skipFault = none
  | .null | .bool _ | .num _ | .str _ => by simp [ofJson, skipFault]
  | .arr items => by simp [ofJson, skipFault, skipFaultItems_ofItems items, Ending.skipFault]
  | .obj members => by
    simp [ofJson, skipFault, skipFaultMembers_ofMembers members, Ending.skipFault]

theorem skipFaultItems_ofItems : ∀ items : List Json, skipFaultItems (ofItems items) = none
  | [] => rfl
  | item :: items => by
    simp [ofItems, skipFaultItems, skipFault_ofJson item, skipFaultItems_ofItems items]

theorem skipFaultMembers_ofMembers : ∀ members : List (String × Json),
    skipFaultMembers (ofMembers members) = none
  | [] => rfl
  | (_, value) :: members => by
    simp [ofMembers, skipFaultMembers, skipFault_ofJson value, skipFaultMembers_ofMembers members]

end

end Draft

/-! ## Forms -/

/-- The form in which a written value is read back. -/
inductive Form
  /-- Members as they are written. -/
  | written
  /-- Members in key order, at any depth. -/
  | ordered

namespace Form

/-- A value in a form. -/
def json : Form → Json → Json
  | written, value => value
  | ordered, value => value.normalize

/-- What there is to read of a value in a form. -/
def draft (form : Form) (value : Json) : Draft := .ofJson (form.json value)

variable (form : Form)

@[simp] theorem draft_null : form.draft .null = .null := by cases form <;> rfl

@[simp] theorem draft_bool (value : Bool) : form.draft (.bool value) = .bool value := by
  cases form <;> rfl

@[simp] theorem draft_num (value : Number) : form.draft (.num value) = .num value := by
  cases form <;> rfl

@[simp] theorem draft_str (text : String) : form.draft (.str text) = .str text := by
  cases form <;> rfl

@[simp] theorem draft_arr (items : List Json) :
    form.draft (.arr items) = .arr (items.map form.draft) .closed := by
  cases form with
  | written =>
    show Draft.ofJson (.arr items) = _
    rw [Draft.ofJson, Draft.ofItems_eq_map]
    rfl
  | ordered =>
    show Draft.ofJson (Json.normalize (.arr items)) = _
    rw [Json.normalize, Draft.ofJson, Draft.ofItems_eq_map, Json.normalizeItems_eq_map,
      List.map_map]
    rfl

/-- An ordered value is its own form. -/
theorem draft_of_ordered {value : Json} (h : value.Ordered) : form.draft value = .ofJson value := by
  cases form with
  | written => rfl
  | ordered => rw [draft, json, Json.normalize_of_ordered h]

/-- Members that are read are those of a written object: one of each name, each in its form. -/
structure Lays (members : List (String × Json)) (drafts : List (String × Draft)) : Prop where
  nodup : (drafts.map Prod.fst).Nodup
  undamaged : ∀ member ∈ drafts, member.2.keepFault = none ∧ member.2.skipFault = none
  lookup : ∀ name, drafts.lookup name = (members.lookup name).map form.draft

/-- An object in a form, each member in that form. -/
theorem exists_lays {members : List (String × Json)} (h : (members.map Prod.fst).Nodup) :
    ∃ drafts, form.draft (.obj members) = .obj drafts .closed ∧ form.Lays members drafts := by
  obtain ⟨values, hvalues, hnodup, hlookup⟩ : ∃ values : List (String × Json),
      form.json (.obj members) = .obj values ∧ (values.map Prod.fst).Nodup ∧
        ∀ name, values.lookup name = (members.lookup name).map form.json := by
    cases form with
    | written => exact ⟨members, rfl, h, fun name => (congrFun Option.map_id _).symm⟩
    | ordered =>
      have hkeys : ((Json.normalizeMembers members).map Prod.fst).Nodup := by
        rw [Json.normalizeMembers_eq_map, List.map_map]
        exact h
      refine ⟨_, by rw [json, Json.normalize], Bindings.nodup_keys _, fun name => ?_⟩
      show (Bindings.ofList _).get? name = _
      rw [Bindings.get?_ofList (List.nodup_iff_count_le_one.1 hkeys name),
        Json.normalizeMembers_eq_map, lookup_map_snd]
      rfl
  refine ⟨Draft.ofMembers values, by rw [draft, hvalues, Draft.ofJson], ?_, ?_, fun name => ?_⟩
  · rw [Draft.ofMembers_eq_map, List.map_map]
    exact hnodup
  · rw [Draft.ofMembers_eq_map]
    intro member hmember
    obtain ⟨value, _, rfl⟩ := List.mem_map.1 hmember
    exact ⟨Draft.keepFault_ofJson _, Draft.skipFault_ofJson _⟩
  · rw [Draft.ofMembers_eq_map, lookup_map_snd, hlookup, Option.map_map]
    rfl

/-- What is left without one of the members. -/
theorem Lays.without {form : Form} {name : String} {value : Json} {members : List (String × Json)}
    {drafts : List (String × Draft)} (h : form.Lays ((name, value) :: members) drafts)
    (hname : name ∉ members.map Prod.fst) : form.Lays members (drafts.filter (·.1 ≠ name)) where
  nodup := h.nodup.sublist (List.filter_sublist.map _)
  undamaged := fun member hmember => h.undamaged member (List.mem_of_mem_filter hmember)
  lookup := by
    intro other
    rw [Bindings.lookup_filter_ne, h.lookup, Bindings.lookup_cons]
    split
    next hother => rw [hother, lookup_eq_none_of_notMem hname, Option.map_none]
    next => rfl

end Form

end ScreenFlow
