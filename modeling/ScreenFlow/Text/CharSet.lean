/-!
# Sets of characters

A set of characters is kept as runs of code points that stand in order and do not touch, so that equal
sets are equal values. `contains_union`, `contains_complement` and their likes say what is in a set.
-/

namespace ScreenFlow.Text

/-! ## Runs -/

/-- First and last numbers of some runs. -/
abbrev Runs := List (Nat × Nat)

namespace Runs

/-- The runs stand in order, with gaps between them. -/
def Apart : Runs → Prop
  | [] => True
  | (first, last) :: runs => first ≤ last ∧ (∀ run ∈ runs, last + 1 < run.1) ∧ Apart runs

def has (runs : Runs) (n : Nat) : Bool := runs.any fun (first, last) => first ≤ n && n ≤ last

/-- Add a run; it becomes one with those that it touches. -/
def add (first last : Nat) : Runs → Runs
  | [] => [(first, last)]
  | (low, high) :: runs =>
    if last + 1 < low then (first, last) :: (low, high) :: runs
    else if high + 1 < first then (low, high) :: add first last runs
    else add (min first low) (max last high) runs

/-- The gaps between runs, from a number on and up to the last code point. -/
def gaps (start : Nat) : Runs → Runs
  | [] => if start ≤ 0x10FFFF then [(start, 0x10FFFF)] else []
  | (first, last) :: runs =>
    if start < first then (start, first - 1) :: gaps (last + 1) runs else gaps (last + 1) runs

@[simp] theorem has_nil (n : Nat) : has [] n = false := rfl

@[simp] theorem has_cons (first last : Nat) (runs : Runs) (n : Nat) :
    has ((first, last) :: runs) n = (first ≤ n && n ≤ last || has runs n) := rfl

theorem lt_of_mem_add {bound first last : Nat} {runs : Runs} (h : bound < first)
    (hr : ∀ run ∈ runs, bound < run.1) : ∀ run ∈ add first last runs, bound < run.1 := by
  fun_induction add first last runs with
  | case1 => simpa using h
  | case2 first last low high runs _ =>
    intro run hrun
    rcases List.mem_cons.1 hrun with rfl | hrun
    · exact h
    · exact hr run hrun
  | case3 first last low high runs _ _ ih =>
    intro run hrun
    rcases List.mem_cons.1 hrun with rfl | hrun
    · exact hr _ List.mem_cons_self
    · exact ih h (fun run hrun => hr run (List.mem_cons_of_mem _ hrun)) run hrun
  | case4 first last low high runs _ _ ih =>
    have hlow : bound < low := hr (low, high) List.mem_cons_self
    exact ih (by omega) fun run hrun => hr run (List.mem_cons_of_mem _ hrun)

theorem Apart.add {first last : Nat} {runs : Runs} (h : first ≤ last) (hr : Apart runs) :
    Apart (runs.add first last) := by
  fun_induction Runs.add first last runs with
  | case1 => exact ⟨h, by simp, trivial⟩
  | case2 first last low high runs hlow =>
    refine ⟨h, fun run hrun => ?_, hr⟩
    rcases List.mem_cons.1 hrun with rfl | hrun
    · exact hlow
    · have := hr.1
      have := hr.2.1 run hrun
      omega
  | case3 first last low high runs _ hhigh ih =>
    exact ⟨hr.1, lt_of_mem_add hhigh hr.2.1, ih h hr.2.2⟩
  | case4 first last low high runs _ _ ih =>
    have := hr.1
    exact ih (by omega) hr.2.2

theorem has_add {first last : Nat} {runs : Runs} (h : first ≤ last) (hr : Apart runs) (n : Nat) :
    (runs.add first last).has n = (first ≤ n && n ≤ last || runs.has n) := by
  fun_induction Runs.add first last runs with
  | case1 => rfl
  | case2 => rfl
  | case3 first last low high runs _ _ ih =>
    rw [has_cons, has_cons, ih h hr.2.2, Bool.or_left_comm]
  | case4 first last low high runs _ _ ih =>
    have := hr.1
    rw [ih (by omega) hr.2.2, has_cons, ← Bool.or_assoc]
    congr 1
    rw [Bool.eq_iff_iff]
    simp only [Bool.and_eq_true, Bool.or_eq_true, decide_eq_true_eq]
    omega

/-- Each run starts later than the one before ends, so a gap ends before all that follow. -/
theorem le_of_mem_gaps {bound start : Nat} {runs : Runs} (h : bound ≤ start) (hr : Apart runs)
    (hs : ∀ run ∈ runs, start ≤ run.1) : ∀ run ∈ gaps start runs, bound ≤ run.1 := by
  induction runs generalizing bound start with
  | nil =>
    intro run hrun
    simp only [gaps] at hrun
    split at hrun <;> simp_all
  | cons head runs ih =>
    have hle := hs head List.mem_cons_self
    have hnext : ∀ run ∈ runs, head.2 + 1 ≤ run.1 := fun run hrun => Nat.le_of_lt (hr.2.1 run hrun)
    have hfirst := hr.1
    have hrest : ∀ run ∈ gaps (head.2 + 1) runs, bound ≤ run.1 := ih (by omega) hr.2.2 hnext
    intro run hrun
    simp only [gaps] at hrun
    split at hrun
    · rcases List.mem_cons.1 hrun with rfl | hrun
      · exact h
      · exact hrest run hrun
    · exact hrest run hrun

theorem Apart.gaps {start : Nat} {runs : Runs} (hr : Apart runs)
    (hs : ∀ run ∈ runs, start ≤ run.1) : Apart (runs.gaps start) := by
  induction runs generalizing start with
  | nil =>
    simp only [Runs.gaps]
    split
    · exact ⟨by assumption, by simp, trivial⟩
    · trivial
  | cons head runs ih =>
    have hnext : ∀ run ∈ runs, head.2 + 1 ≤ run.1 := fun run hrun => Nat.le_of_lt (hr.2.1 run hrun)
    have hfirst := hr.1
    simp only [Runs.gaps]
    split
    · refine ⟨by omega, fun run hrun => ?_, ih hr.2.2 hnext⟩
      have := le_of_mem_gaps (Nat.le_refl _) hr.2.2 hnext run hrun
      omega
    · exact ih hr.2.2 hnext

theorem has_eq_false {runs : Runs} {n : Nat} (h : ∀ run ∈ runs, n < run.1) : runs.has n = false := by
  simp only [has, List.any_eq_false, Bool.and_eq_true, decide_eq_true_eq, not_and]
  intro run hrun hle
  have := h run hrun
  omega

theorem has_gaps {start : Nat} {runs : Runs} (hr : Apart runs) (hs : ∀ run ∈ runs, start ≤ run.1)
    {n : Nat} (hn : n ≤ 0x10FFFF) : (runs.gaps start).has n = (start ≤ n && !runs.has n) := by
  induction runs generalizing start with
  | nil =>
    simp only [gaps]
    split <;> simp <;> omega
  | cons head runs ih =>
    obtain ⟨first, last⟩ := head
    have hnext : ∀ run ∈ runs, last + 1 ≤ run.1 := fun run hrun => Nat.le_of_lt (hr.2.1 run hrun)
    have hle : start ≤ first := hs (first, last) List.mem_cons_self
    have hfirst : first ≤ last := hr.1
    have hrest := ih hr.2.2 hnext
    by_cases hend : last + 1 ≤ n
    · have h₁ : ¬(n ≤ first - 1) := by omega
      have h₂ : ¬(n ≤ last) := by omega
      have h₃ : start ≤ n := by omega
      simp only [gaps]
      split <;> simp [hrest, hend, h₁, h₂, h₃]
    · have hnone : Runs.has runs n = false :=
        has_eq_false fun run hrun => by have := hr.2.1 run hrun; omega
      have h₁ : n ≤ last := by omega
      rw [Bool.eq_iff_iff]
      simp only [gaps]
      split <;> simp [hrest, hend, hnone, h₁] <;> omega

end Runs

/-! ## Sets -/

/-- A set of characters, by the runs of its code points. -/
structure CharSet where
  runs : Runs
  apart : runs.Apart
  deriving DecidableEq

namespace CharSet

def contains (set : CharSet) (c : Char) : Bool := set.runs.has c.toNat

def empty : CharSet := ⟨[], trivial⟩

/-- Add the code points from one number up to another one. -/
def insertRun (set : CharSet) (first last : Nat) : CharSet :=
  if h : first ≤ last then ⟨set.runs.add first last, set.apart.add h⟩ else set

/-- The code points of some runs. -/
def ofRuns (runs : Runs) : CharSet :=
  runs.foldr (fun run set => set.insertRun run.1 run.2) empty

/-- The characters from one up to another one. -/
def run (first last : Char) : CharSet := empty.insertRun first.toNat last.toNat

def single (c : Char) : CharSet := run c c

def union (set other : CharSet) : CharSet :=
  set.runs.foldr (fun run all => all.insertRun run.1 run.2) other

def complement (set : CharSet) : CharSet :=
  ⟨set.runs.gaps 0, set.apart.gaps fun _ _ => Nat.zero_le _⟩

def intersection (set other : CharSet) : CharSet :=
  (set.complement.union other.complement).complement

def difference (set other : CharSet) : CharSet := set.intersection other.complement

/-- What is in one of two sets but not in both. -/
def symmetricDifference (set other : CharSet) : CharSet :=
  (set.union other).difference (set.intersection other)

@[simp] theorem contains_empty (c : Char) : empty.contains c = false := rfl

theorem contains_insertRun (set : CharSet) (first last : Nat) (c : Char) :
    (set.insertRun first last).contains c =
      (first ≤ c.toNat && c.toNat ≤ last || set.contains c) := by
  unfold insertRun
  split
  · exact Runs.has_add ‹_› set.apart _
  · have : (first ≤ c.toNat && c.toNat ≤ last) = false := by simp; omega
    simp [this]

theorem contains_foldr (runs : Runs) (set : CharSet) (c : Char) :
    (runs.foldr (fun run all => all.insertRun run.1 run.2) set).contains c =
      (runs.has c.toNat || set.contains c) := by
  induction runs with
  | nil => rfl
  | cons run runs ih =>
    rw [List.foldr_cons, contains_insertRun, ih, ← Bool.or_assoc]
    rfl

@[simp] theorem contains_ofRuns (runs : Runs) (c : Char) :
    (ofRuns runs).contains c = runs.has c.toNat := by simp [ofRuns, contains_foldr]

@[simp] theorem contains_union (set other : CharSet) (c : Char) :
    (set.union other).contains c = (set.contains c || other.contains c) :=
  contains_foldr ..

@[simp] theorem contains_complement (set : CharSet) (c : Char) :
    set.complement.contains c = !set.contains c := by
  have hc : c.toNat ≤ 0x10FFFF := by
    rcases c.valid with h | h
    · exact Nat.le_trans (Nat.le_of_lt h) (by decide)
    · exact Nat.le_of_lt_succ h.2
  simpa [contains, complement] using Runs.has_gaps set.apart (fun _ _ => Nat.zero_le _) hc

@[simp] theorem contains_intersection (set other : CharSet) (c : Char) :
    (set.intersection other).contains c = (set.contains c && other.contains c) := by
  simp [intersection]

@[simp] theorem contains_difference (set other : CharSet) (c : Char) :
    (set.difference other).contains c = (set.contains c && !other.contains c) := by
  simp [difference]

@[simp] theorem contains_symmetricDifference (set other : CharSet) (c : Char) :
    (set.symmetricDifference other).contains c = (set.contains c ^^ other.contains c) := by
  simp only [symmetricDifference, contains_difference, contains_union, contains_intersection]
  cases set.contains c <;> cases other.contains c <;> rfl

@[simp] theorem contains_single (c d : Char) : (single c).contains d = (d == c) := by
  rw [Bool.eq_iff_iff]
  simp only [single, run, contains_insertRun, contains_empty, Bool.or_false, Bool.and_eq_true,
    decide_eq_true_eq, beq_iff_eq, ← Char.toNat_inj]
  omega

end CharSet

end ScreenFlow.Text
