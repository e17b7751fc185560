import ScreenFlow.Proofs.Text.Cut
import ScreenFlow.Proofs.Text.Takes
import ScreenFlow.Proofs.Text.Trim
import ScreenFlow.Template
import ScreenFlow.Text.Pattern.Reader

/-!
# Tokens of templates

A token is a content between double braces, where a content is not empty and has no closing brace
(`IsContent`). It may have opening braces. At the front of a text there is at most one token, since a
content ends at the first closing brace (`tokenAt_eq_some_iff`).

`tokenPattern` takes the tokens, and blanks at either end of a content may go to its group or not. This
makes no difference to the key (`takes_token_iff`, `keyOf_of_takes`).
-/

namespace ScreenFlow.Template

/-- What can stand between the braces of a token. -/
def IsContent (content : List Char) : Prop := content ≠ [] ∧ '}' ∉ content

/-- The token of a content. -/
def token (content : List Char) : List Char := '{' :: '{' :: (content ++ ['}', '}'])

/-- A token stands at the front of a text. -/
def StartsToken (cs : List Char) : Prop :=
  ∃ content rest, IsContent content ∧ cs = token content ++ rest

theorem token_append (content rest : List Char) :
    token content ++ rest = '{' :: '{' :: (content ++ '}' :: '}' :: rest) := by
  simp [token]

theorem tokenAt_token {content : List Char} (h : IsContent content) (rest : List Char) :
    tokenAt (token content ++ rest) = some (content, rest) := by
  rw [token_append]
  simp only [tokenAt, takeWhile_ne_append_cons _ h.2, dropWhile_ne_append_cons _ h.2]
  rw [if_neg (by simpa using h.1)]

theorem tokenAt_eq_some_iff {cs content rest : List Char} :
    tokenAt cs = some (content, rest) ↔ IsContent content ∧ cs = token content ++ rest := by
  constructor
  · intro h
    unfold tokenAt at h
    split at h
    next inside =>
      dsimp only at h
      split at h
      next after hafter =>
        obtain ⟨_, hsplit⟩ := eq_append_cons_of_dropWhile_ne hafter
        split at h
        · cases h
        next hne =>
          simp only [Option.some.injEq, Prod.mk.injEq] at h
          obtain ⟨hcontent, rfl⟩ := h
          rw [hcontent] at hsplit hne
          refine ⟨⟨by simpa using hne, hcontent ▸ notMem_takeWhile_ne '}' inside⟩, ?_⟩
          rw [token_append, hsplit]
      · cases h
    · cases h
  · rintro ⟨hcontent, rfl⟩
    exact tokenAt_token hcontent rest

theorem tokenAt_eq_none_iff {cs : List Char} : tokenAt cs = none ↔ ¬ StartsToken cs := by
  constructor
  · rintro h ⟨content, rest, hcontent, rfl⟩
    rw [tokenAt_token hcontent] at h
    cases h
  · intro h
    cases htoken : tokenAt cs with
    | none => rfl
    | some found =>
      obtain ⟨hcontent, hcs⟩ := tokenAt_eq_some_iff.1 htoken
      exact absurd ⟨_, _, hcontent, hcs⟩ h

/-! ## The pattern -/

/-- Anything but a closing brace. -/
def inside : Text.CharSet := (Text.CharSet.single '}').complement

/-- Two opening braces, blanks, a group of what can stand inside, blanks, and two closing braces. -/
def tokenPattern : Text.Pattern :=
  .inSequence [.one (.single '{'), .one (.single '{'), .star (.one .blanks) true,
    .group 0 (.plus (.one inside) true), .star (.one .blanks) true, .one (.single '}'),
    .one (.single '}')]

theorem ofText?_token :
    Text.Pattern.ofText? "\\\x7b\\\x7b\\s*([^\x7d]+)\\s*\\\x7d\\\x7d" = some tokenPattern := by
  decide +kernel

theorem takes_group_sequence_iff {rest : Text.Pattern} {cs : List Char}
    {groups : List (Nat × List Char)} :
    Text.Pattern.Takes (.sequence (.group 0 (.plus (.one inside) true)) rest) cs groups ↔
      ∃ content after later, IsContent content ∧ cs = content ++ after ∧ rest.Takes after later ∧
        groups = (0, content) :: later := by
  have hcontent : ∀ content : List Char,
      (content ≠ [] ∧ ∀ c ∈ content, inside.contains c = true) ↔ IsContent content := by
    intro content
    simp only [inside, Text.CharSet.contains_complement, Text.CharSet.contains_single,
      Bool.not_eq_true', beq_eq_false_iff_ne]
    exact and_congr_right fun _ =>
      ⟨fun h hmem => h _ hmem rfl, fun h c hc => ne_of_mem_of_not_mem hc h⟩
  rw [Text.Pattern.takes_sequence_iff]
  constructor
  · rintro ⟨content, after, _, later, hgroup, hrest, rfl, rfl⟩
    obtain ⟨_, hinner, rfl⟩ := Text.Pattern.takes_group_iff.1 hgroup
    obtain ⟨hne, hall, rfl⟩ := Text.Pattern.takes_plus_one_iff.1 hinner
    exact ⟨content, after, later, (hcontent content).1 ⟨hne, hall⟩, rfl, hrest, rfl⟩
  · rintro ⟨content, after, later, h, rfl, hrest, rfl⟩
    obtain ⟨hne, hall⟩ := (hcontent content).2 h
    exact ⟨content, after, [(0, content)], later, Text.Pattern.takes_group_iff.2
      ⟨[], Text.Pattern.takes_plus_one_iff.2 ⟨hne, hall, rfl⟩, rfl⟩, hrest, rfl, rfl⟩

/-- The pattern takes a token, and its group the content up to blanks at the ends. -/
theorem takes_token_iff {cs : List Char} {groups : List (Nat × List Char)} :
    tokenPattern.Takes cs groups ↔ ∃ before inner after,
      (∀ c ∈ before, Text.isBlank c = true) ∧ IsContent inner ∧
        (∀ c ∈ after, Text.isBlank c = true) ∧ cs = token (before ++ inner ++ after) ∧
          groups = [(0, inner)] := by
  have hparts : tokenPattern = .sequence (.one (.single '{')) (.sequence (.one (.single '{'))
      (.sequence (.star (.one .blanks) true) (.sequence (.group 0 (.plus (.one inside) true))
        (.sequence (.star (.one .blanks) true) (.sequence (.one (.single '}'))
          (.one (.single '}'))))))) := rfl
  simp only [hparts, Text.Pattern.takes_single_sequence_iff, Text.Pattern.takes_star_sequence_iff,
    takes_group_sequence_iff, Text.Pattern.takes_single_iff, Text.CharSet.contains_blanks]
  constructor
  · rintro ⟨_, rfl, _, rfl, before, _, hbefore, rfl, inner, _, _, hinner, rfl,
      ⟨after, _, hafter, rfl, _, rfl, rfl, rfl⟩, rfl⟩
    refine ⟨before, inner, after, hbefore, hinner, hafter, ?_, rfl⟩
    simp [token]
  · rintro ⟨before, inner, after, hbefore, hinner, hafter, rfl, rfl⟩
    refine ⟨_, rfl, _, rfl, before, inner ++ (after ++ ['}', '}']), hbefore, ?_, inner, _, [], hinner,
      rfl, ⟨after, _, hafter, rfl, _, rfl, rfl, rfl⟩, rfl⟩
    simp

/-- What the pattern takes is a token, and in whichever way it takes it, the key of its group is that
of the content. -/
theorem keyOf_of_takes {cs : List Char} {groups : List (Nat × List Char)}
    (h : tokenPattern.Takes cs groups) :
    ∃ content inner, IsContent content ∧ cs = token content ∧ groups = [(0, inner)] ∧
      keyOf inner = keyOf content := by
  obtain ⟨before, inner, after, hbefore, hinner, hafter, rfl, rfl⟩ := takes_token_iff.1 h
  have hbrace : Text.isBlank '}' = false := by decide
  have hblanks : ∀ {blanks : List Char}, (∀ c ∈ blanks, Text.isBlank c = true) → '}' ∉ blanks := by
    intro blanks hall hmem
    rw [hall _ hmem] at hbrace
    cases hbrace
  refine ⟨before ++ inner ++ after, inner, ⟨?_, ?_⟩, rfl, rfl, ?_⟩
  · simp [hinner.1]
  · simp [hblanks hbefore, hinner.2, hblanks hafter]
  · rw [keyOf, keyOf, Text.trimChars_append_blanks _ hafter, Text.trimChars_blanks_append _ hbefore]

theorem takes_token {content : List Char} (h : IsContent content) :
    tokenPattern.Takes (token content) [(0, content)] :=
  takes_token_iff.2 ⟨[], content, [], by simp, h, by simp, by simp, rfl⟩

/-- What is found at the front of a text is what the pattern takes there, with the same key. -/
theorem exists_tokenAt_iff_takes {cs rest : List Char} {key : String} :
    (∃ content, tokenAt cs = some (content, rest) ∧ keyOf content = key) ↔
      ∃ taken inner, tokenPattern.Takes taken [(0, inner)] ∧ cs = taken ++ rest ∧
        keyOf inner = key := by
  constructor
  · rintro ⟨content, htoken, hkey⟩
    obtain ⟨hcontent, hcs⟩ := tokenAt_eq_some_iff.1 htoken
    exact ⟨token content, content, takes_token hcontent, hcs, hkey⟩
  · rintro ⟨taken, inner, htakes, rfl, hkey⟩
    obtain ⟨content, group, hcontent, rfl, hgroup, hsame⟩ := keyOf_of_takes htakes
    obtain rfl : inner = group := by simpa using hgroup
    exact ⟨content, tokenAt_token hcontent rest, hsame.symm.trans hkey⟩

end ScreenFlow.Template
