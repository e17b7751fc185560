import Mathlib.Data.List.TakeWhile

/-!
# Cutting a list at a sign

The part of a list before the first of some sign, and the part from it on.
-/

namespace ScreenFlow

variable {α : Type} [DecidableEq α] {x : α}

theorem takeWhile_ne_append_cons {before : List α} (after : List α) (h : x ∉ before) :
    (before ++ x :: after).takeWhile (· ≠ x) = before := by
  have hall : ∀ y ∈ before, decide (y ≠ x) = true := fun y hy =>
    decide_eq_true (ne_of_mem_of_not_mem hy h)
  rw [List.takeWhile_append_of_pos hall, List.takeWhile_cons_of_neg (by simp), List.append_nil]

theorem dropWhile_ne_append_cons {before : List α} (after : List α) (h : x ∉ before) :
    (before ++ x :: after).dropWhile (· ≠ x) = x :: after := by
  have hall : ∀ y ∈ before, decide (y ≠ x) = true := fun y hy =>
    decide_eq_true (ne_of_mem_of_not_mem hy h)
  rw [List.dropWhile_append_of_pos hall, List.dropWhile_cons_of_neg (by simp)]

/-- What is left of a list is left from the first of the signs on. -/
theorem eq_append_cons_of_dropWhile_ne {y : α} {xs after : List α}
    (h : xs.dropWhile (· ≠ x) = y :: after) :
    y = x ∧ xs = xs.takeWhile (· ≠ x) ++ x :: after := by
  have hy := List.head?_dropWhile_not (fun z => decide (z ≠ x)) xs
  rw [h] at hy
  obtain rfl : y = x := by simpa using hy
  refine ⟨rfl, ?_⟩
  rw [← h, List.takeWhile_append_dropWhile]

theorem notMem_takeWhile_ne (x : α) (xs : List α) : x ∉ xs.takeWhile (· ≠ x) := by
  intro h
  have := List.mem_takeWhile_imp h
  simp at this

/-- Where one of the signs stands, the first of them has all behind it that this one has. -/
theorem exists_dropWhile_ne (before after : List α) :
    ∃ more, (before ++ x :: after).dropWhile (· ≠ x) = x :: (more ++ after) := by
  induction before with
  | nil => exact ⟨[], List.dropWhile_cons_of_neg (by simp)⟩
  | cons y before ih =>
    by_cases h : y = x
    · refine ⟨before ++ [x], ?_⟩
      rw [h, List.cons_append, List.dropWhile_cons_of_neg (by simp)]
      simp
    · obtain ⟨more, hmore⟩ := ih
      refine ⟨more, ?_⟩
      rw [List.cons_append, List.dropWhile_cons_of_pos (by simpa using h), hmore]

end ScreenFlow
