import Mathlib.Data.List.Forall2

/-!
# Checks that may fail

What a sequence of checks comes to. `bind_eq_ok_iff` and `mapM_eq_ok_iff` take apart a sequence that
passes; `FailsFirst` says of one that it fails with the first entry of a list of violations.
-/

namespace ScreenFlow

section Passing

variable {ε δ α β : Type}

theorem bind_eq_ok_iff {check : Except ε α} {next : α → Except ε β} {result : β} :
    check >>= next = .ok result ↔ ∃ value, check = .ok value ∧ next value = .ok result := by
  cases check <;> simp [bind, Except.bind]

theorem not_exists_error {check : Except ε α} {value : α} (h : check = .ok value) :
    ¬ ∃ error, check = .error error := by
  rw [h]
  exact fun ⟨_, hnever⟩ => nomatch hnever

theorem exists_bind_eq_error_iff {check : Except ε α} {next : α → Except ε β} :
    (∃ error, check >>= next = .error error) ↔
      (∃ error, check = .error error) ∨
        ∃ value, check = .ok value ∧ ∃ error, next value = .error error := by
  cases check <;> simp [bind, Except.bind]

theorem pure_eq_ok_iff {value result : α} :
    (pure value : Except ε α) = .ok result ↔ value = result := by
  simp [pure, Except.pure]

theorem map_eq_ok_iff {f : α → β} {check : Except ε α} {result : β} :
    check.map f = .ok result ↔ ∃ value, check = .ok value ∧ f value = result := by
  cases check <;> simp [Except.map]

theorem mapError_eq_ok_iff {f : ε → δ} {check : Except ε α} {result : α} :
    check.mapError f = .ok result ↔ check = .ok result := by
  cases check <;> simp [Except.mapError]

/-- Checks that come to the same fail alike, or pass with values that come to the same. -/
theorem eq_of_map_eq_map {f : α → δ} {g : β → δ} {check : Except ε α} {other : Except ε β}
    (h : check.map f = other.map g) :
    (∃ error, check = .error error ∧ other = .error error) ∨
      ∃ value result, check = .ok value ∧ other = .ok result ∧ f value = g result := by
  cases check <;> cases other <;> simp_all [Except.map]

theorem mapM_eq_ok_iff {f : α → Except ε β} {entries : List α} {results : List β} :
    entries.mapM f = .ok results ↔
      List.Forall₂ (fun entry result => f entry = .ok result) entries results := by
  induction entries generalizing results with
  | nil => cases results <;> simp [pure, Except.pure]
  | cons entry entries ih =>
    simp only [List.mapM_cons, bind_eq_ok_iff, pure_eq_ok_iff, ih, List.forall₂_cons_left_iff]
    constructor
    · rintro ⟨value, hvalue, rest, hrest, rfl⟩
      exact ⟨value, rest, hvalue, hrest, rfl⟩
    · rintro ⟨value, rest, hvalue, hrest, rfl⟩
      exact ⟨value, hvalue, rest, hrest, rfl⟩

/-- A search through a list fails exactly if it fails at an entry. -/
theorem exists_filterMapM_eq_error_iff {f : α → Except ε (Option β)} {entries : List α} :
    (∃ error, entries.filterMapM f = .error error) ↔
      ∃ entry ∈ entries, ∃ error, f entry = .error error := by
  induction entries with
  | nil => simp [pure, Except.pure]
  | cons entry entries ih =>
    rw [List.filterMapM_cons]
    simp only [List.mem_cons, exists_eq_or_imp]
    rw [← ih]
    cases f entry with
    | error error => exact iff_of_true ⟨error, rfl⟩ (.inl ⟨error, rfl⟩)
    | ok found =>
      cases found <;> cases entries.filterMapM f <;> simp [bind, Except.bind, pure, Except.pure]

/-- A search through a list that passes finds what it finds at the entries. -/
theorem mem_of_filterMapM_eq_ok {f : α → Except ε (Option β)} {entries : List α}
    {results : List β} (h : entries.filterMapM f = .ok results) {result : β} :
    result ∈ results ↔ ∃ entry ∈ entries, f entry = .ok (some result) := by
  induction entries generalizing results with
  | nil =>
    obtain rfl := pure_eq_ok_iff.1 h
    simp
  | cons entry entries ih =>
    rw [List.filterMapM_cons, bind_eq_ok_iff] at h
    obtain ⟨found, hfound, hrest⟩ := h
    simp only [List.mem_cons, exists_eq_or_imp, hfound, Except.ok.injEq]
    cases found with
    | none =>
      rw [ih hrest]
      simp
    | some first =>
      obtain ⟨rest, hfilter, hresults⟩ := bind_eq_ok_iff.1 hrest
      obtain rfl := pure_eq_ok_iff.1 hresults
      rw [List.mem_cons, ih hfilter, Option.some.injEq, eq_comm]

end Passing

/-- A check fails with the first of its violations, and passes if there is none. -/
def FailsFirst {ε α : Type} (check : Except ε α) (violations : List ε) : Prop :=
  ∀ error, check = .error error ↔ violations.head? = some error

namespace FailsFirst

variable {ε α β γ : Type}

theorem ok (value : α) : FailsFirst (.ok value : Except ε α) [] := by
  intro error
  simp

theorem error (error : ε) (later : List ε) :
    FailsFirst (.error error : Except ε α) (error :: later) := by
  intro other
  simp

theorem ok_iff {check : Except ε α} {violations : List ε} (h : FailsFirst check violations) :
    (∃ value, check = .ok value) ↔ violations = [] := by
  cases hcheck : check with
  | ok value =>
    cases violations with
    | nil => simp
    | cons error later =>
      have := (h error).2 rfl
      rw [hcheck] at this
      cases this
  | error error =>
    have := (h error).1 hcheck
    cases violations with
    | nil => cases this
    | cons first later => simp

/-- One check after another: the violations of the first come first. -/
theorem bind {check : Except ε α} {next : α → Except ε β} {violations later : List ε}
    (h : FailsFirst check violations)
    (hnext : ∀ value, check = .ok value → FailsFirst (next value) later) :
    FailsFirst (check >>= next) (violations ++ later) := by
  cases hcheck : check with
  | ok value =>
    have hnil : violations = [] := h.ok_iff.1 ⟨value, hcheck⟩
    rw [hnil]
    exact hnext value hcheck
  | error error =>
    intro other
    have hhead := (h error).1 hcheck
    rw [List.head?_append, hhead]
    show Except.error error = Except.error other ↔ _
    simp

/-- The same check for each entry of a list. -/
theorem mapM {f : γ → Except ε α} {violations : γ → List ε}
    (h : ∀ entry, FailsFirst (f entry) (violations entry)) (entries : List γ) :
    FailsFirst (entries.mapM f) (entries.flatMap violations) := by
  induction entries with
  | nil => exact ok []
  | cons entry entries ih =>
    rw [List.mapM_cons, List.flatMap_cons]
    refine (h entry).bind fun value _ => ?_
    rw [← List.append_nil (entries.flatMap violations)]
    exact ih.bind fun values _ => ok _

end FailsFirst

end ScreenFlow
