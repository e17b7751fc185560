import ScreenFlow.Proofs.Text.Address

/-!
# What fields accept

A text field accepts a value that meets all its requirements (`TextField.Accepts`). A value that it
does not accept violates one of them or more (`TextField.Violates`), and the message is that of the
first one in the order required, least length, format (`TextField.FirstViolates`). Two formats are
never asked for at once, so there is only one first violation (`FirstViolates.unique`).

`violation?_cases` takes the checks apart once; the rest is read off it.
-/

namespace ScreenFlow

namespace Violation

/-- The place of the check among the others. -/
def rank : Violation → Nat
  | required => 0
  | tooShort _ => 1
  | noAddress | shortPassword => 2

end Violation

namespace TextField

/-- A value meets all that is asked of it: something that is no blank if it is required, and, if there
is anything, enough characters, an address if it is to be one, and eight characters of a password. -/
structure Accepts (field : TextField) (value : String) : Prop where
  filled : field.required = true → ∃ c ∈ value.toList, Text.isBlank c = false
  checked : value = "" ∨
    (∀ minimum, field.validations.minLength = some minimum → minimum.toNat ≤ value.length) ∧
      (field.dataType = .email → Text.HoldsAddress value.toList) ∧
      (field.dataType = .password → 8 ≤ value.length)

/-- A value does not meet a requirement. -/
def Violates (field : TextField) (value : String) : Violation → Prop
  | .required => field.required = true ∧ ∀ c ∈ value.toList, Text.isBlank c = true
  | .tooShort minimum =>
    value ≠ "" ∧ field.validations.minLength = some minimum ∧ value.length < minimum.toNat
  | .noAddress => value ≠ "" ∧ field.dataType = .email ∧ ¬ Text.HoldsAddress value.toList
  | .shortPassword => value ≠ "" ∧ field.dataType = .password ∧ value.length < 8

/-- A violation before which there is none. -/
def FirstViolates (field : TextField) (value : String) (violation : Violation) : Prop :=
  field.Violates value violation ∧
    ∀ other, field.Violates value other → violation.rank ≤ other.rank

variable {field : TextField} {value : String}

theorem accepts_iff : field.Accepts value ↔ ∀ violation, ¬ field.Violates value violation := by
  constructor
  · rintro ⟨hfilled, hchecked⟩ violation hviolates
    cases violation with
    | required =>
      obtain ⟨c, hc, hblank⟩ := hfilled hviolates.1
      rw [hviolates.2 c hc] at hblank
      cases hblank
    | tooShort minimum =>
      obtain ⟨hne, hminimum, hshort⟩ := hviolates
      have := (hchecked.resolve_left hne).1 minimum hminimum
      omega
    | noAddress =>
      obtain ⟨hne, hemail, hnone⟩ := hviolates
      exact hnone ((hchecked.resolve_left hne).2.1 hemail)
    | shortPassword =>
      obtain ⟨hne, hpassword, hshort⟩ := hviolates
      have := (hchecked.resolve_left hne).2.2 hpassword
      omega
  · intro h
    refine ⟨fun hrequired => ?_, ?_⟩
    · by_contra hblank
      refine h .required ⟨hrequired, fun c hc => ?_⟩
      by_contra hc'
      exact hblank ⟨c, hc, Bool.eq_false_iff.2 hc'⟩
    · by_cases hempty : value = ""
      · exact Or.inl hempty
      · refine Or.inr ⟨fun minimum hminimum => ?_, fun hemail => ?_, fun hpassword => ?_⟩
        · by_contra hshort
          exact h (.tooShort minimum) ⟨hempty, hminimum, by omega⟩
        · by_contra hnone
          exact h .noAddress ⟨hempty, hemail, hnone⟩
        · by_contra hshort
          exact h .shortPassword ⟨hempty, hpassword, by omega⟩

/-- Checks in the same place are not violated by the same value, unless they are the same check. -/
theorem Violates.eq_of_rank {violation other : Violation} (h : field.Violates value violation)
    (hother : field.Violates value other) (hrank : violation.rank = other.rank) :
    violation = other := by
  cases violation <;> cases other <;> simp [Violation.rank] at hrank
  case required.required => rfl
  case tooShort.tooShort =>
    obtain ⟨_, hminimum, _⟩ := h
    obtain ⟨_, hminimum', _⟩ := hother
    rw [hminimum, Option.some.injEq] at hminimum'
    rw [hminimum']
  case noAddress.noAddress => rfl
  case noAddress.shortPassword =>
    cases h.2.1.symm.trans hother.2.1
  case shortPassword.noAddress =>
    cases h.2.1.symm.trans hother.2.1
  case shortPassword.shortPassword => rfl

theorem FirstViolates.unique {violation other : Violation}
    (h : field.FirstViolates value violation) (hother : field.FirstViolates value other) :
    violation = other :=
  h.1.eq_of_rank hother.1
    (Nat.le_antisymm (h.2 other hother.1) (hother.2 violation h.1))

/-! ## The checks -/

/-- The check of the data type finds a violated format, if there is one. -/
theorem ofType_cases (field : TextField) (hne : value ≠ "") :
    (violation?.ofType field value = none ∧
        ∀ violation, violation.rank = 2 → ¬ field.Violates value violation) ∨
      ∃ violation, violation?.ofType field value = some violation ∧ violation.rank = 2 ∧
        field.Violates value violation := by
  have hformat : ∀ {violation : Violation}, violation.rank = 2 →
      violation = .noAddress ∨ violation = .shortPassword := by
    intro violation hrank
    cases violation <;> simp [Violation.rank] at hrank ⊢
  have hnone (hemail : field.dataType ≠ .email) (hpassword : field.dataType ≠ .password) :
      ∀ violation, violation.rank = 2 → ¬ field.Violates value violation := by
    rintro violation hrank hviolates
    rcases hformat hrank with rfl | rfl
    · exact hemail hviolates.2.1
    · exact hpassword hviolates.2.1
  unfold violation?.ofType
  cases htype : field.dataType with
  | email =>
    by_cases haddress : Text.HoldsAddress value.toList
    · refine Or.inl ⟨if_pos (Text.hasAddress_iff.2 haddress), fun violation hrank hviolates => ?_⟩
      rcases hformat hrank with rfl | rfl
      · exact hviolates.2.2 haddress
      · cases htype.symm.trans hviolates.2.1
    · refine Or.inr ⟨.noAddress, if_neg ?_, rfl, hne, htype, haddress⟩
      rwa [Text.hasAddress_iff]
  | password =>
    by_cases hshort : value.length < 8
    · exact Or.inr ⟨.shortPassword, if_pos hshort, rfl, hne, htype, hshort⟩
    · refine Or.inl ⟨if_neg hshort, fun violation hrank hviolates => ?_⟩
      rcases hformat hrank with rfl | rfl
      · cases htype.symm.trans hviolates.2.1
      · exact hshort hviolates.2.2
  | text => exact Or.inl ⟨rfl, hnone (by rw [htype]; nofun) (by rw [htype]; nofun)⟩
  | other name unknown => exact Or.inl ⟨rfl, hnone (by rw [htype]; nofun) (by rw [htype]; nofun)⟩

/-- If nothing before the check of the data type is violated, that check finds the first violation. -/
theorem ofType_cases_of_not_violates (hne : value ≠ "") (hfilled : ¬ field.Violates value .required)
    (hlong : ∀ minimum, ¬ field.Violates value (.tooShort minimum)) :
    (violation?.ofType field value = none ∧ ∀ violation, ¬ field.Violates value violation) ∨
      ∃ violation, violation?.ofType field value = some violation ∧
        field.FirstViolates value violation := by
  have hrank : ∀ {violation}, field.Violates value violation → violation.rank = 2 := by
    intro violation hviolates
    cases violation with
    | required => exact absurd hviolates hfilled
    | tooShort minimum => exact absurd hviolates (hlong minimum)
    | noAddress => rfl
    | shortPassword => rfl
  rcases ofType_cases field hne with ⟨hnone, hmeets⟩ | ⟨found, hfound, hplace, hviolates⟩
  · exact Or.inl ⟨hnone, fun violation h => hmeets violation (hrank h) h⟩
  · exact Or.inr ⟨found, hfound, hviolates, fun other h => by rw [hplace, hrank h]⟩

theorem violates_required_iff :
    field.Violates value .required ↔ field.required = true ∧ Text.allBlank value = true := by
  rw [Text.allBlank, List.all_eq_true]
  rfl

/-- The checks find the first violation, and none if there is none. -/
theorem violation?_cases (field : TextField) (value : String) :
    (field.violation? value = none ∧ ∀ violation, ¬ field.Violates value violation) ∨
      ∃ violation, field.violation? value = some violation ∧
        field.FirstViolates value violation := by
  unfold violation?
  by_cases hblank : field.Violates value .required
  · rw [if_pos (violates_required_iff.1 hblank)]
    exact Or.inr ⟨.required, rfl, hblank, fun _ _ => Nat.zero_le _⟩
  rw [if_neg fun h => hblank (violates_required_iff.2 h)]
  by_cases hempty : value = ""
  · rw [if_pos hempty]
    refine Or.inl ⟨rfl, fun violation hviolates => ?_⟩
    cases violation with
    | required => exact hblank hviolates
    | tooShort minimum => exact hviolates.1 hempty
    | noAddress => exact hviolates.1 hempty
    | shortPassword => exact hviolates.1 hempty
  rw [if_neg hempty]
  cases hminimum : field.validations.minLength with
  | none =>
    refine ofType_cases_of_not_violates hempty hblank fun minimum hshort => ?_
    cases hminimum.symm.trans hshort.2.1
  | some minimum =>
    by_cases hshort : value.length < minimum.toNat
    · refine Or.inr ⟨.tooShort minimum, if_pos hshort, ⟨hempty, hminimum, hshort⟩, ?_⟩
      intro other hviolates
      cases other with
      | required => exact absurd hviolates hblank
      | tooShort other => exact Nat.le_refl _
      | noAddress => exact Nat.le_succ _
      | shortPassword => exact Nat.le_succ _
    · dsimp only
      rw [if_neg hshort]
      refine ofType_cases_of_not_violates hempty hblank fun other hother => ?_
      obtain rfl := Option.some.inj (hminimum.symm.trans hother.2.1)
      exact hshort hother.2.2

theorem violation?_eq_some_iff {violation : Violation} :
    field.violation? value = some violation ↔ field.FirstViolates value violation := by
  rcases field.violation?_cases value with ⟨hnone, hmeets⟩ | ⟨found, hfound, hfirst⟩
  · rw [hnone]
    exact iff_of_false nofun fun h => hmeets violation h.1
  · rw [hfound, Option.some.injEq]
    constructor
    · rintro rfl
      exact hfirst
    · exact hfirst.unique

theorem violation?_eq_none_iff : field.violation? value = none ↔ field.Accepts value := by
  rw [accepts_iff]
  rcases field.violation?_cases value with ⟨hnone, hmeets⟩ | ⟨found, hfound, hfirst⟩
  · exact iff_of_true hnone hmeets
  · rw [hfound]
    exact iff_of_false nofun fun h => h found hfirst.1

/-- **Validation.** A field reports no error exactly for the values that it accepts, and else the
message of the first requirement that the value does not meet. -/
theorem reports_first_violation (field : TextField) (value : String) :
    (field.error? value = none ↔ field.Accepts value) ∧
      ∀ message, field.error? value = some message ↔
        ∃ violation, field.FirstViolates value violation ∧ violation.message = message := by
  unfold error?
  refine ⟨Option.map_eq_none_iff.trans violation?_eq_none_iff, fun message => ?_⟩
  simp only [Option.map_eq_some_iff, violation?_eq_some_iff]

end TextField

end ScreenFlow
