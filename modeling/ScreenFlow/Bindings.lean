/-!
# Bindings

A finite map from text keys, kept as a list in strictly increasing key order. Two maps with the
same look-ups are equal (`Bindings.ext_get?`), so equality is decided on the list.
-/

namespace ScreenFlow

/-- A finite map from keys to `α`, in key order. -/
structure Bindings (α : Type) where
  entries : List (String × α)
  sorted : entries.Pairwise (·.1 < ·.1)
  deriving DecidableEq

namespace Bindings

variable {α : Type}

/-! ## Sorted lists of entries -/

/-- Bind `key` in a sorted list, replacing what it was bound to. -/
def insertEntry (key : String) (value : α) : List (String × α) → List (String × α)
  | [] => [(key, value)]
  | entry :: rest =>
    if key < entry.1 then (key, value) :: entry :: rest
    else if entry.1 < key then entry :: insertEntry key value rest
    else (key, value) :: rest

theorem mem_insertEntry {key : String} {value : α} {entry : String × α} :
    ∀ {entries : List (String × α)}, entry ∈ insertEntry key value entries →
      entry = (key, value) ∨ entry ∈ entries
  | [], h => by simpa [insertEntry] using h
  | first :: rest, h => by
    rw [insertEntry] at h
    split at h
    · simpa using h
    · split at h
      · rcases List.mem_cons.1 h with h | h
        · exact .inr (h ▸ List.mem_cons_self)
        · exact (mem_insertEntry h).imp_right (List.mem_cons_of_mem _)
      · exact (List.mem_cons.1 h).imp_right (List.mem_cons_of_mem _)

theorem sorted_insertEntry (key : String) (value : α) :
    ∀ {entries : List (String × α)}, entries.Pairwise (·.1 < ·.1) →
      (insertEntry key value entries).Pairwise (·.1 < ·.1)
  | [], _ => by simp [insertEntry]
  | first :: rest, h => by
    have hfirst := (List.pairwise_cons.1 h).1
    have hrest := (List.pairwise_cons.1 h).2
    rw [insertEntry]
    split
    next hlt =>
      refine List.pairwise_cons.2 ⟨fun entry hentry => ?_, h⟩
      rcases List.mem_cons.1 hentry with rfl | hentry
      · exact hlt
      · exact String.lt_trans hlt (hfirst _ hentry)
    next hnlt =>
      split
      next hgt =>
        refine List.pairwise_cons.2 ⟨fun entry hentry => ?_, sorted_insertEntry key value hrest⟩
        rcases mem_insertEntry hentry with rfl | hentry
        · exact hgt
        · exact hfirst _ hentry
      next hngt =>
        have heq : key = first.1 := String.le_antisymm (String.not_lt.1 hngt) (String.not_lt.1 hnlt)
        exact List.pairwise_cons.2 ⟨fun entry hentry => heq ▸ hfirst _ hentry, hrest⟩

theorem lookup_cons (key : String) (first : String × α) (rest : List (String × α)) :
    (first :: rest).lookup key = if key = first.1 then some first.2 else rest.lookup key := by
  obtain ⟨name, value⟩ := first
  by_cases h : key = name
  · subst h
    simp
  · have : (key == name) = false := by simpa using h
    simp [List.lookup_cons, this, h]

theorem lookup_eq_none_of_lt {key : String} (entries : List (String × α))
    (h : ∀ entry ∈ entries, key < entry.1) : entries.lookup key = none := by
  rw [List.lookup_eq_none_iff]
  intro entry hentry
  have : key ≠ entry.1 := fun he => String.lt_irrefl _ (he ▸ h entry hentry)
  simpa using this

theorem lookup_insertEntry (key other : String) (value : α) :
    ∀ entries : List (String × α),
      (insertEntry key value entries).lookup other =
        if other = key then some value else entries.lookup other
  | [] => by simp [insertEntry, lookup_cons]
  | first :: rest => by
    have ih := lookup_insertEntry key other value rest
    rw [insertEntry]
    split
    · rw [lookup_cons]
    · split
      next hgt =>
        have hne : first.1 ≠ key := fun he => String.lt_irrefl _ (he ▸ hgt)
        rw [lookup_cons, lookup_cons, ih]
        by_cases h : other = first.1 <;> simp_all
      next hnlt hngt =>
        have heq : key = first.1 := String.le_antisymm (String.not_lt.1 hngt) (String.not_lt.1 hnlt)
        rw [lookup_cons, lookup_cons, heq]
        by_cases h : other = first.1 <;> simp [h]

theorem lookup_filter_ne (key other : String) (entries : List (String × α)) :
    (entries.filter (·.1 ≠ key)).lookup other =
      if other = key then none else entries.lookup other := by
  induction entries with
  | nil => simp
  | cons first rest ih =>
    by_cases hf : first.1 = key
    · rw [List.filter_cons_of_neg (by simpa using hf), ih, lookup_cons, hf]
      by_cases h : other = key <;> simp [h]
    · rw [List.filter_cons_of_pos (by simpa using hf), lookup_cons, lookup_cons, ih]
      by_cases h : other = first.1
      · simp [h, hf]
      · simp [h]

/-! ## Operations -/

/-- The empty map. -/
def empty : Bindings α := ⟨[], .nil⟩

instance : Inhabited (Bindings α) := ⟨empty⟩

/-- What `key` is bound to. -/
def get? (map : Bindings α) (key : String) : Option α := map.entries.lookup key

/-- Bind `key` to `value`, replacing what it was bound to. -/
def insert (map : Bindings α) (key : String) (value : α) : Bindings α :=
  ⟨insertEntry key value map.entries, sorted_insertEntry key value map.sorted⟩

/-- Remove the binding of `key`. -/
def erase (map : Bindings α) (key : String) : Bindings α :=
  ⟨map.entries.filter (·.1 ≠ key), map.sorted.filter _⟩

/-- Bind every pair in turn; the last one of a key stays. -/
def insertAll (map : Bindings α) (pairs : List (String × α)) : Bindings α :=
  pairs.foldl (fun map pair => map.insert pair.1 pair.2) map

/-- The map of a list of pairs; the last one of a key stays. -/
def ofList (pairs : List (String × α)) : Bindings α := empty.insertAll pairs

theorem ofList_concat (pairs : List (String × α)) (pair : String × α) :
    ofList (pairs ++ [pair]) = (ofList pairs).insert pair.1 pair.2 := by
  unfold ofList insertAll
  rw [List.foldl_append]
  rfl

theorem mem_insertAll {pairs : List (String × α)} (map : Bindings α) {entry : String × α}
    (h : entry ∈ (map.insertAll pairs).entries) : entry ∈ pairs ∨ entry ∈ map.entries := by
  induction pairs generalizing map with
  | nil => exact .inr h
  | cons pair pairs ih =>
    rcases ih (map.insert pair.1 pair.2) h with h | h
    · exact .inl (List.mem_cons_of_mem _ h)
    · exact (mem_insertEntry h).imp_left fun h => by rw [h]; exact List.mem_cons_self

theorem mem_of_mem_ofList {pairs : List (String × α)} {entry : String × α}
    (h : entry ∈ (ofList pairs).entries) : entry ∈ pairs :=
  (mem_insertAll empty h).resolve_right (by simp [empty])

@[simp] theorem get?_empty (key : String) : (empty : Bindings α).get? key = none := rfl

theorem get?_insert (map : Bindings α) (key other : String) (value : α) :
    (map.insert key value).get? other = if other = key then some value else map.get? other :=
  lookup_insertEntry key other value map.entries

@[simp] theorem get?_insert_self (map : Bindings α) (key : String) (value : α) :
    (map.insert key value).get? key = some value := by simp [get?_insert]

theorem get?_erase (map : Bindings α) (key other : String) :
    (map.erase key).get? other = if other = key then none else map.get? other :=
  lookup_filter_ne key other map.entries

/-- The number of keys. -/
def size (map : Bindings α) : Nat := map.entries.length

/-! ## Equality -/

theorem entries_eq_of_lookup :
    ∀ {xs ys : List (String × α)}, xs.Pairwise (·.1 < ·.1) → ys.Pairwise (·.1 < ·.1) →
      (∀ key, xs.lookup key = ys.lookup key) → xs = ys
  | [], [], _, _, _ => rfl
  | [], y :: _, _, _, h => by simpa [lookup_cons] using h y.1
  | x :: _, [], _, _, h => by simpa [lookup_cons] using h x.1
  | x :: xs, y :: ys, hx, hy, h => by
    obtain ⟨hx₁, hx₂⟩ := List.pairwise_cons.1 hx
    obtain ⟨hy₁, hy₂⟩ := List.pairwise_cons.1 hy
    have hkey : x.1 = y.1 := by
      rcases Decidable.em (x.1 < y.1) with hlt | hnlt
      · have := h x.1
        rw [lookup_eq_none_of_lt (y :: ys)] at this
        · simp [lookup_cons] at this
        · intro entry hentry
          rcases List.mem_cons.1 hentry with rfl | hentry
          · exact hlt
          · exact String.lt_trans hlt (hy₁ _ hentry)
      · rcases Decidable.em (y.1 < x.1) with hgt | hngt
        · have := h y.1
          rw [lookup_eq_none_of_lt (x :: xs)] at this
          · simp [lookup_cons] at this
          · intro entry hentry
            rcases List.mem_cons.1 hentry with rfl | hentry
            · exact hgt
            · exact String.lt_trans hgt (hx₁ _ hentry)
        · exact String.le_antisymm (String.not_lt.1 hngt) (String.not_lt.1 hnlt)
    have hvalue : x.2 = y.2 := by
      have := h x.1
      simpa [lookup_cons, hkey] using this
    have hrest : xs = ys := by
      refine entries_eq_of_lookup hx₂ hy₂ fun key => ?_
      rcases Decidable.em (key = x.1) with rfl | hne
      · rw [lookup_eq_none_of_lt _ hx₁, hkey, lookup_eq_none_of_lt _ hy₁]
      · have := h key
        simpa [lookup_cons, hne, ← hkey] using this
    rw [hrest, show x = y from Prod.ext hkey hvalue]

theorem ext_get? {xs ys : Bindings α} (h : ∀ key, xs.get? key = ys.get? key) : xs = ys := by
  obtain ⟨xs, hxs⟩ := xs
  obtain ⟨ys, hys⟩ := ys
  have : xs = ys := entries_eq_of_lookup hxs hys h
  subst this
  rfl

/-- Binding keys above all others appends them. -/
theorem insertEntry_of_forall_lt {key : String} {value : α} : ∀ {entries : List (String × α)},
    (∀ entry ∈ entries, entry.1 < key) → insertEntry key value entries = entries ++ [(key, value)]
  | [], _ => rfl
  | first :: rest, h => by
    have hlt := h first List.mem_cons_self
    rw [insertEntry, if_neg (String.lt_asymm hlt), if_pos hlt,
      insertEntry_of_forall_lt fun entry hentry => h entry (List.mem_cons_of_mem _ hentry),
      List.cons_append]

theorem entries_insertAll_of_sorted {pairs : List (String × α)} (map : Bindings α)
    (h : (map.entries ++ pairs).Pairwise (·.1 < ·.1)) :
    (map.insertAll pairs).entries = map.entries ++ pairs := by
  induction pairs generalizing map with
  | nil => simp [insertAll]
  | cons pair pairs ih =>
    have hentries : (map.insert pair.1 pair.2).entries = map.entries ++ [pair] :=
      insertEntry_of_forall_lt fun entry hentry =>
        (List.pairwise_append.1 h).2.2 entry hentry pair List.mem_cons_self
    have := ih (map.insert pair.1 pair.2) (by simpa [hentries] using h)
    simpa [insertAll, hentries] using this

theorem entries_ofList_of_sorted {pairs : List (String × α)} (h : pairs.Pairwise (·.1 < ·.1)) :
    (ofList pairs).entries = pairs := by
  simpa [ofList, empty] using entries_insertAll_of_sorted empty (by simpa [empty] using h)

@[simp] theorem ofList_entries (map : Bindings α) : ofList map.entries = map := by
  have := entries_ofList_of_sorted map.sorted
  cases map
  cases h : ofList _
  simp_all

end Bindings

end ScreenFlow
