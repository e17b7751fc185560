import ScreenFlow.Text.Pattern

/-!
# What patterns take

`Pattern.Takes` says which texts a pattern takes as a whole, and which parts of them its groups take.
A text may be taken in several ways. Which of them is preferred is not said here, and what holds of
every way holds of the preferred one. Patterns that ask for a place are left out: they take nothing.
-/

namespace ScreenFlow.Text.Pattern

/-- A pattern takes a text in a way that gives its groups, by their indices, parts of the text. -/
inductive Takes : Pattern → List Char → List (Nat × List Char) → Prop
  | empty : Takes .empty [] []
  | one {set : CharSet} {c : Char} (h : set.contains c = true) : Takes (.one set) [c] []
  | sequence {first rest : Pattern} {cs ds : List Char} {groups later : List (Nat × List Char)}
      (h : Takes first cs groups) (hrest : Takes rest ds later) :
      Takes (.sequence first rest) (cs ++ ds) (groups ++ later)
  | choiceFirst {first rest : Pattern} {cs : List Char} {groups : List (Nat × List Char)}
      (h : Takes first cs groups) : Takes (.choice first rest) cs groups
  | choiceRest {first rest : Pattern} {cs : List Char} {groups : List (Nat × List Char)}
      (h : Takes rest cs groups) : Takes (.choice first rest) cs groups
  | optionalNone {inner : Pattern} {eager : Bool} : Takes (.optional inner eager) [] []
  | optionalSome {inner : Pattern} {eager : Bool} {cs : List Char}
      {groups : List (Nat × List Char)} (h : Takes inner cs groups) :
      Takes (.optional inner eager) cs groups
  | starNone {inner : Pattern} {eager : Bool} : Takes (.star inner eager) [] []
  | starMore {inner : Pattern} {eager : Bool} {cs ds : List Char}
      {groups later : List (Nat × List Char)} (h : Takes inner cs groups)
      (hmore : Takes (.star inner eager) ds later) :
      Takes (.star inner eager) (cs ++ ds) (groups ++ later)
  | plus {inner : Pattern} {eager : Bool} {cs ds : List Char}
      {groups later : List (Nat × List Char)} (h : Takes inner cs groups)
      (hmore : Takes (.star inner eager) ds later) :
      Takes (.plus inner eager) (cs ++ ds) (groups ++ later)
  | group {index : Nat} {inner : Pattern} {cs : List Char} {groups : List (Nat × List Char)}
      (h : Takes inner cs groups) : Takes (.group index inner) cs ((index, cs) :: groups)

variable {set : CharSet} {eager : Bool} {cs : List Char} {groups : List (Nat × List Char)}

theorem takes_one_iff :
    Takes (.one set) cs groups ↔ ∃ c, set.contains c = true ∧ cs = [c] ∧ groups = [] := by
  constructor
  · intro h
    cases h with
    | one h => exact ⟨_, h, rfl, rfl⟩
  · rintro ⟨c, h, rfl, rfl⟩
    exact .one h

theorem takes_single_iff {c : Char} :
    Takes (.one (.single c)) cs groups ↔ cs = [c] ∧ groups = [] := by
  simp [takes_one_iff]

theorem takes_sequence_iff {first rest : Pattern} :
    Takes (.sequence first rest) cs groups ↔ ∃ before after earlier later,
      Takes first before earlier ∧ Takes rest after later ∧ cs = before ++ after ∧
        groups = earlier ++ later := by
  constructor
  · intro h
    cases h with
    | sequence h hrest => exact ⟨_, _, _, _, h, hrest, rfl, rfl⟩
  · rintro ⟨before, after, earlier, later, h, hrest, rfl, rfl⟩
    exact .sequence h hrest

theorem takes_group_iff {index : Nat} {inner : Pattern} :
    Takes (.group index inner) cs groups ↔
      ∃ later, Takes inner cs later ∧ groups = (index, cs) :: later := by
  constructor
  · intro h
    cases h with
    | group h => exact ⟨_, h, rfl⟩
  · rintro ⟨later, h, rfl⟩
    exact .group h

/-- Any number of characters of a set. -/
theorem takes_star_one_iff :
    Takes (.star (.one set) eager) cs groups ↔
      (∀ c ∈ cs, set.contains c = true) ∧ groups = [] := by
  constructor
  · intro h
    generalize hstar : Pattern.star (.one set) eager = pattern at h
    induction h with
    | starNone => exact ⟨by simp, rfl⟩
    | starMore h _ _ ih =>
      obtain ⟨rfl, rfl⟩ := Pattern.star.inj hstar
      obtain ⟨c, hc, rfl, rfl⟩ := takes_one_iff.1 h
      obtain ⟨hrest, rfl⟩ := ih rfl
      exact ⟨List.forall_mem_cons.2 ⟨hc, hrest⟩, rfl⟩
    | _ => cases hstar
  · rintro ⟨hall, rfl⟩
    induction cs with
    | nil => exact .starNone
    | cons c cs ih =>
      obtain ⟨hc, hrest⟩ := List.forall_mem_cons.1 hall
      exact .starMore (.one hc) (ih hrest)

/-- At least one character of a set. -/
theorem takes_plus_one_iff :
    Takes (.plus (.one set) eager) cs groups ↔
      cs ≠ [] ∧ (∀ c ∈ cs, set.contains c = true) ∧ groups = [] := by
  constructor
  · intro h
    cases h with
    | plus h hmore =>
      obtain ⟨c, hc, rfl, rfl⟩ := takes_one_iff.1 h
      obtain ⟨hrest, rfl⟩ := takes_star_one_iff.1 hmore
      exact ⟨List.cons_ne_nil _ _, List.forall_mem_cons.2 ⟨hc, hrest⟩, rfl⟩
  · rintro ⟨hne, hall, rfl⟩
    obtain ⟨c, rest, rfl⟩ := List.exists_cons_of_ne_nil hne
    obtain ⟨hc, hrest⟩ := List.forall_mem_cons.1 hall
    exact .plus (.one hc) (takes_star_one_iff.2 ⟨hrest, rfl⟩)

/-! ## Characters before the rest of a pattern -/

section Sequences

variable {rest : Pattern}

theorem takes_single_sequence_iff {c : Char} :
    Takes (.sequence (.one (.single c)) rest) cs groups ↔
      ∃ after, cs = c :: after ∧ Takes rest after groups := by
  rw [takes_sequence_iff]
  constructor
  · rintro ⟨_, after, _, _, h, hrest, rfl, rfl⟩
    obtain ⟨rfl, rfl⟩ := takes_single_iff.1 h
    exact ⟨after, rfl, hrest⟩
  · rintro ⟨after, rfl, hrest⟩
    exact ⟨[c], after, [], groups, takes_single_iff.2 ⟨rfl, rfl⟩, hrest, rfl, rfl⟩

theorem takes_star_sequence_iff :
    Takes (.sequence (.star (.one set) eager) rest) cs groups ↔
      ∃ before after, (∀ c ∈ before, set.contains c = true) ∧ cs = before ++ after ∧
        Takes rest after groups := by
  rw [takes_sequence_iff]
  constructor
  · rintro ⟨before, after, _, _, h, hrest, rfl, rfl⟩
    obtain ⟨hall, rfl⟩ := takes_star_one_iff.1 h
    exact ⟨before, after, hall, rfl, hrest⟩
  · rintro ⟨before, after, hall, rfl, hrest⟩
    exact ⟨before, after, [], groups, takes_star_one_iff.2 ⟨hall, rfl⟩, hrest, rfl, rfl⟩

theorem takes_plus_sequence_iff :
    Takes (.sequence (.plus (.one set) eager) rest) cs groups ↔
      ∃ before after, before ≠ [] ∧ (∀ c ∈ before, set.contains c = true) ∧ cs = before ++ after ∧
        Takes rest after groups := by
  rw [takes_sequence_iff]
  constructor
  · rintro ⟨before, after, _, _, h, hrest, rfl, rfl⟩
    obtain ⟨hne, hall, rfl⟩ := takes_plus_one_iff.1 h
    exact ⟨before, after, hne, hall, rfl, hrest⟩
  · rintro ⟨before, after, hne, hall, rfl, hrest⟩
    exact ⟨before, after, [], groups, takes_plus_one_iff.2 ⟨hne, hall, rfl⟩, hrest, rfl, rfl⟩

end Sequences

end ScreenFlow.Text.Pattern
