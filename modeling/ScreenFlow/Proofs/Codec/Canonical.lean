import ScreenFlow.Proofs.Codec.Form

/-!
# Canonical values

The canonical form of a value has the members of each object in key order, the last one of a key. If
no object repeats a name (`Json.Distinct`), nothing but the order is lost: the members are the same
ones (`entries_ofList_perm`). So values whose members are written in another order, at any depth, have
the same canonical form (`Json.Rearranges.normalize_eq`).
-/

namespace ScreenFlow

namespace Bindings

variable {α : Type}

theorem lookup_eq_some_of_mem {pairs : List (String × α)} (h : (pairs.map Prod.fst).Nodup)
    {key : String} {value : α} (hmem : (key, value) ∈ pairs) :
    pairs.lookup key = some value := by
  obtain ⟨before, after, rfl⟩ := List.append_of_mem hmem
  refine List.lookup_eq_some_iff.2 ⟨before, after, rfl, fun pair hpair => ?_⟩
  rw [List.map_append, List.map_cons, List.nodup_middle, List.nodup_cons] at h
  rw [bne_iff_ne]
  rintro rfl
  exact h.1 (List.mem_append_left _ (List.mem_map.2 ⟨pair, hpair, rfl⟩))

/-- Pairs with distinct keys all stay. -/
theorem entries_ofList_perm {pairs : List (String × α)} (h : (pairs.map Prod.fst).Nodup) :
    (ofList pairs).entries.Perm pairs := by
  refine (List.perm_ext_iff_of_nodup (nodup_keys _).of_map h.of_map).2 fun pair => ?_
  refine ⟨mem_of_mem_ofList, fun hmem => ?_⟩
  have hget : (ofList pairs).get? pair.1 = some pair.2 := by
    rw [get?_ofList (List.nodup_iff_count_le_one.1 h _)]
    exact lookup_eq_some_of_mem h hmem
  obtain ⟨before, after, hentries, _⟩ := List.lookup_eq_some_iff.1 hget
  rw [hentries]
  exact List.mem_append_right before List.mem_cons_self

/-- It does not matter in which order pairs with distinct keys come. -/
theorem ofList_eq_of_perm {pairs others : List (String × α)} (hkeys : (pairs.map Prod.fst).Nodup)
    (h : pairs.Perm others) : ofList pairs = ofList others := by
  have hothers : (others.map Prod.fst).Nodup := (h.map Prod.fst).nodup_iff.1 hkeys
  have hentries : (ofList pairs).entries.Perm (ofList others).entries :=
    (entries_ofList_perm hkeys).trans (h.trans (entries_ofList_perm hothers).symm)
  have heq := hentries.eq_of_pairwise
    (fun x y _ _ hlt hgt => absurd hgt (String.lt_asymm hlt)) (sorted _) (sorted _)
  rw [← ofList_entries (ofList pairs), heq, ofList_entries]

theorem get?_insertAll_filter (key other : String) {pairs : List (String × α)} {map rest : Bindings α}
    (h : ∀ other, rest.get? other = if other = key then none else map.get? other) :
    (rest.insertAll (pairs.filter (·.1 ≠ key))).get? other =
      if other = key then none else (map.insertAll pairs).get? other := by
  induction pairs generalizing map rest with
  | nil => exact h other
  | cons pair pairs ih =>
    by_cases hpair : pair.1 = key
    · rw [List.filter_cons_of_neg (by simpa using hpair)]
      refine ih fun name => ?_
      rw [h, get?_insert, hpair]
      by_cases hname : name = key
      · rw [if_pos hname, if_pos hname]
      · rw [if_neg hname, if_neg hname, if_neg hname]
    · rw [List.filter_cons_of_pos (by simpa using hpair)]
      refine ih fun name => ?_
      rw [get?_insert, get?_insert, h]
      by_cases hname : name = pair.1
      · rw [if_pos hname, if_neg (hname ▸ hpair), if_pos hname]
      · rw [if_neg hname, if_neg hname]

/-- Pairs without those of a key. -/
theorem ofList_filter (key : String) (pairs : List (String × α)) :
    ofList (pairs.filter (·.1 ≠ key)) = (ofList pairs).erase key := by
  refine ext_get? fun other => ?_
  rw [get?_erase]
  refine get?_insertAll_filter key other fun name => ?_
  rw [get?_empty, ite_self]

/-- Pairs that are related one by one come to maps that are. -/
theorem rel_get?_ofList {β : Type} (related : α → β → Prop) {pairs : List (String × α)}
    {others : List (String × β)}
    (h : List.Forall₂ (fun pair other => pair.1 = other.1 ∧ related pair.2 other.2) pairs others)
    (key : String) : Option.Rel related ((ofList pairs).get? key) ((ofList others).get? key) := by
  suffices hall : ∀ (map : Bindings α) (other : Bindings β),
      Option.Rel related (map.get? key) (other.get? key) →
        Option.Rel related ((map.insertAll pairs).get? key) ((other.insertAll others).get? key) from
    hall empty empty .none
  induction h with
  | nil => exact fun _ _ hmaps => hmaps
  | @cons pair _ _ _ hpair _ ih =>
    intro map other hmaps
    refine ih _ _ ?_
    rw [get?_insert, get?_insert, ← hpair.1]
    by_cases hkey : key = pair.1
    · rw [if_pos hkey, if_pos hkey]
      exact .some hpair.2
    · rw [if_neg hkey, if_neg hkey]
      exact hmaps

end Bindings

namespace Json

/-! ## Distinct names -/

mutual

/-- No object, at any depth, repeats the name of a member. -/
def Distinct : Json → Prop
  | arr items => DistinctItems items
  | obj members => (members.map Prod.fst).Nodup ∧ DistinctMembers members
  | _ => True

def DistinctItems : List Json → Prop
  | [] => True
  | item :: items => Distinct item ∧ DistinctItems items

def DistinctMembers : List (String × Json) → Prop
  | [] => True
  | (_, value) :: members => Distinct value ∧ DistinctMembers members

end

theorem distinctItems_iff {items : List Json} :
    DistinctItems items ↔ ∀ item ∈ items, Distinct item := by
  induction items with
  | nil => simp [DistinctItems]
  | cons item items ih => simp [DistinctItems, ih]

theorem distinctMembers_iff {members : List (String × Json)} :
    DistinctMembers members ↔ ∀ member ∈ members, Distinct member.2 := by
  induction members with
  | nil => simp [DistinctMembers]
  | cons member members ih => simp [DistinctMembers, ih]

/-! ## Rearrangement -/

/-- The members of objects are written in another order, at any depth. -/
inductive Rearranges : Json → Json → Prop
  | members {members others : List (String × Json)} (perm : members.Perm others) :
      Rearranges (.obj members) (.obj others)
  | item (before : List Json) {item other : Json} (after : List Json)
      (inside : Rearranges item other) :
      Rearranges (.arr (before ++ item :: after)) (.arr (before ++ other :: after))
  | member (before : List (String × Json)) (name : String) {value other : Json}
      (after : List (String × Json)) (inside : Rearranges value other) :
      Rearranges (.obj (before ++ (name, value) :: after)) (.obj (before ++ (name, other) :: after))
  | trans {value other last : Json} (first : Rearranges value other)
      (second : Rearranges other last) : Rearranges value last

theorem Rearranges.distinct {value other : Json} (h : value.Rearranges other)
    (hdistinct : value.Distinct) : other.Distinct := by
  induction h with
  | members perm =>
    obtain ⟨hkeys, hvalues⟩ := hdistinct
    rw [distinctMembers_iff] at hvalues
    refine ⟨(perm.map Prod.fst).nodup_iff.1 hkeys, distinctMembers_iff.2 fun member hmem => ?_⟩
    exact hvalues member (perm.mem_iff.2 hmem)
  | item before after _ ih =>
    refine distinctItems_iff.2 fun item hmem => ?_
    have hitems := distinctItems_iff.1 hdistinct
    rw [List.forall_mem_append, List.forall_mem_cons] at hitems
    obtain ⟨hbefore, hitem, hafter⟩ := hitems
    rw [List.mem_append, List.mem_cons] at hmem
    rcases hmem with hmem | rfl | hmem
    · exact hbefore item hmem
    · exact ih hitem
    · exact hafter item hmem
  | member before name after _ ih =>
    obtain ⟨hkeys, hvalues⟩ := hdistinct
    rw [distinctMembers_iff, List.forall_mem_append, List.forall_mem_cons] at hvalues
    obtain ⟨hbefore, hvalue, hafter⟩ := hvalues
    rw [List.map_append, List.map_cons] at hkeys
    refine ⟨by rw [List.map_append, List.map_cons]; exact hkeys, ?_⟩
    rw [distinctMembers_iff, List.forall_mem_append, List.forall_mem_cons]
    exact ⟨hbefore, ih hvalue, hafter⟩
  | trans _ _ ihfirst ihsecond => exact ihsecond (ihfirst hdistinct)

theorem keys_normalizeMembers (members : List (String × Json)) :
    (normalizeMembers members).map Prod.fst = members.map Prod.fst := by
  rw [normalizeMembers_eq_map, List.map_map]
  rfl

/-- Nothing of the order of members is left in the canonical form. -/
theorem Rearranges.normalize_eq {value other : Json} (h : value.Rearranges other)
    (hdistinct : value.Distinct) : value.normalize = other.normalize := by
  induction h with
  | @members members others perm =>
    have hkeys : ((normalizeMembers members).map Prod.fst).Nodup := by
      rw [keys_normalizeMembers]
      exact hdistinct.1
    have hperm : (normalizeMembers members).Perm (normalizeMembers others) := by
      rw [normalizeMembers_eq_map, normalizeMembers_eq_map]
      exact perm.map _
    rw [normalize, normalize, Bindings.ofList_eq_of_perm hkeys hperm]
  | item before after _ ih =>
    have hitems := distinctItems_iff.1 hdistinct
    rw [List.forall_mem_append, List.forall_mem_cons] at hitems
    rw [normalize, normalize, normalizeItems_eq_map, normalizeItems_eq_map, List.map_append,
      List.map_append, List.map_cons, List.map_cons, ih hitems.2.1]
  | member before name after _ ih =>
    have hvalues := hdistinct.2
    rw [distinctMembers_iff, List.forall_mem_append, List.forall_mem_cons] at hvalues
    rw [normalize, normalize, normalizeMembers_eq_map, normalizeMembers_eq_map, List.map_append,
      List.map_append, List.map_cons, List.map_cons, ih hvalues.2.1]
  | trans hfirst _ ihfirst ihsecond =>
    exact (ihfirst hdistinct).trans (ihsecond (hfirst.distinct hdistinct))

/-! ## Members in canonical form -/

/-- The members of the canonical form of an object. -/
def canonical (members : List (String × Json)) : List (String × Json) :=
  (Bindings.ofList (normalizeMembers members)).entries

theorem normalize_obj (members : List (String × Json)) :
    (obj members).normalize = .obj (canonical members) := by
  rw [normalize]
  rfl

theorem nodup_canonical (members : List (String × Json)) :
    ((canonical members).map Prod.fst).Nodup := Bindings.nodup_keys _

/-- A member whose name comes once is found in canonical form. -/
theorem lookup_canonical {members : List (String × Json)} {name : String}
    (h : (members.map Prod.fst).count name ≤ 1) :
    (canonical members).lookup name = (members.lookup name).map normalize := by
  rw [← keys_normalizeMembers] at h
  show (Bindings.ofList _).get? name = _
  rw [Bindings.get?_ofList h, normalizeMembers_eq_map, lookup_map_snd]

theorem canonical_filter (members : List (String × Json)) (name : String) :
    canonical (members.filter (·.1 ≠ name)) = (canonical members).filter (·.1 ≠ name) := by
  have hfilter : normalizeMembers (members.filter (·.1 ≠ name)) =
      (normalizeMembers members).filter (·.1 ≠ name) := by
    rw [normalizeMembers_eq_map, normalizeMembers_eq_map, List.filter_map]
    rfl
  unfold canonical
  rw [hfilter, Bindings.ofList_filter]
  rfl

theorem canonical_perm {members : List (String × Json)} (h : (members.map Prod.fst).Nodup) :
    (canonical members).Perm (members.map fun member => (member.1, member.2.normalize)) := by
  rw [← keys_normalizeMembers] at h
  rw [← normalizeMembers_eq_map]
  exact Bindings.entries_ofList_perm h

theorem Distinct.filter {members : List (String × Json)} (h : (obj members).Distinct)
    (name : String) : (obj (members.filter (·.1 ≠ name))).Distinct := by
  refine ⟨h.1.sublist (List.filter_sublist.map _), distinctMembers_iff.2 fun member hmem => ?_⟩
  exact distinctMembers_iff.1 h.2 member (List.mem_of_mem_filter hmem)

theorem Distinct.of_lookup {members : List (String × Json)} (h : (obj members).Distinct)
    {name : String} {value : Json} (hfind : members.lookup name = some value) : value.Distinct := by
  obtain ⟨before, after, rfl, _⟩ := List.lookup_eq_some_iff.1 hfind
  exact distinctMembers_iff.1 h.2 (name, value) (List.mem_append_right before List.mem_cons_self)

end Json

end ScreenFlow
