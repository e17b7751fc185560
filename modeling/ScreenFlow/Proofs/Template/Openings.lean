import ScreenFlow.Proofs.Template.Settled

/-!
# Openings before a token

Two opening braces without a token of their own are part of the text, until a token comes behind them.
Then they may be the ones that open it: a content may have opening braces, and a token starts as early
as it can. `Opens` gives the place: the first two opening braces that no closing brace follows.

1. A token that starts inside a text without tokens and ends behind it has no closing brace in that
   text (`startsToken_append_token_iff`).
2. So of a text without tokens and a token behind it, what stands before the first opening is kept,
   and all else is one token (`renderChars_append_token`).
3. The text is kept as a whole exactly if the token's own braces are the first opening
   (`render_append_token`).
-/

namespace ScreenFlow.Template

/-! ## Texts that stay as they are -/

/-- A token takes more room than nothing does. -/
theorem Parts.length_fill_empty_le (parts : Parts) :
    (parts.fill .empty).length ≤ parts.chars.length := by
  induction parts with
  | last text => exact Nat.le_refl _
  | token text content rest ih =>
    simp only [Parts.fill, Parts.chars, Bindings.get?_empty, Option.getD_none, String.toList_empty,
      List.nil_append, List.length_append]
    omega

/-- A text without keys has no token. -/
theorem untouched_of_keys {text : String} (h : keys text = []) : Untouched text.toList [] := by
  obtain ⟨hproper, hchars⟩ := divides_divide text.toList
  unfold keys at h
  cases hparts : divide text.toList with
  | last cs =>
    rw [hparts] at hproper hchars
    rw [← hchars]
    exact hproper
  | token cs content rest =>
    rw [hparts] at h
    cases h

/-- A text that stays as it is, whatever it is rendered with, has no token. -/
theorem untouched_of_render {text : String} (h : ∀ values, render values text = text) :
    Untouched text.toList [] := by
  refine untouched_of_keys ?_
  have hchars := (divides_divide text.toList).2
  have hfill := congrArg String.toList (h .empty)
  rw [render, String.toList_ofList, renderChars_eq_fill] at hfill
  unfold keys
  cases hparts : divide text.toList with
  | last cs => rfl
  | token cs content rest =>
    -- the token is gone, and nothing is there in its place
    rw [hparts] at hfill hchars
    have hlength := congrArg List.length (hfill.trans hchars.symm)
    have hrest := rest.length_fill_empty_le
    simp only [Parts.fill, Parts.chars, token, Bindings.get?_empty, Option.getD_none,
      String.toList_empty, List.nil_append, List.length_append, List.length_cons] at hlength
    omega

/-! ## The first opening -/

/-- The first two opening braces of a text that no closing brace follows, with what stands before them
and behind them. -/
structure Opens (text before inner : List Char) : Prop where
  parts : text = before ++ '{' :: '{' :: inner
  unclosed : '}' ∉ inner
  first : ∀ earlier rest, text = earlier ++ '{' :: '{' :: rest → '}' ∉ rest →
    before.length ≤ earlier.length

theorem exists_opens {text : List Char}
    (h : ∃ before inner, text = before ++ '{' :: '{' :: inner ∧ '}' ∉ inner) :
    ∃ before inner, Opens text before inner := by
  induction text with
  | nil =>
    obtain ⟨before, inner, htext, _⟩ := h
    simp at htext
  | cons c text ih =>
    by_cases hfront : ∃ inner, c :: text = '{' :: '{' :: inner ∧ '}' ∉ inner
    · obtain ⟨inner, htext, hinner⟩ := hfront
      exact ⟨[], inner, htext, hinner, fun _ _ _ _ => Nat.zero_le _⟩
    · -- no opening is at the front, so each one is behind the first character
      have hbehind : ∀ before inner, c :: text = before ++ '{' :: '{' :: inner → '}' ∉ inner →
          ∃ tail, before = c :: tail ∧ text = tail ++ '{' :: '{' :: inner := by
        intro before inner htext hinner
        cases before with
        | nil => exact absurd ⟨inner, htext, hinner⟩ hfront
        | cons d tail =>
          obtain ⟨rfl, htail⟩ := List.cons.inj htext
          exact ⟨tail, rfl, htail⟩
      obtain ⟨before, inner, htext, hinner⟩ := h
      obtain ⟨tail, _, htail⟩ := hbehind before inner htext hinner
      obtain ⟨before, inner, hparts, hunclosed, hfirst⟩ := ih ⟨tail, inner, htail, hinner⟩
      refine ⟨c :: before, inner, by rw [hparts]; rfl, hunclosed, fun earlier rest hsplit hrest => ?_⟩
      obtain ⟨tail, rfl, htail⟩ := hbehind earlier rest hsplit hrest
      exact Nat.succ_le_succ (hfirst tail rest htail hrest)

/-! ## A token behind a text -/

section Behind

variable {content : List Char} (hcontent : IsContent content)

include hcontent

/-- An opening that no closing brace follows opens the token that comes behind. -/
theorem append_token_of_unclosed {text inner : List Char}
    (htext : text ++ ['{', '{'] = '{' :: '{' :: inner) (hinner : '}' ∉ inner) :
    IsContent (inner ++ content) ∧ text ++ token content = token (inner ++ content) := by
  refine ⟨⟨by simp [hcontent.1], by simp [hinner, hcontent.2]⟩, ?_⟩
  calc text ++ token content = (text ++ ['{', '{']) ++ (content ++ ['}', '}']) := by simp [token]
    _ = token (inner ++ content) := by rw [htext]; simp [token]

/-- At the front of a text without a token there, a token behind the text makes one only with an
opening that no closing brace follows. -/
theorem startsToken_append_token_iff {text : List Char} (hne : text ≠ [])
    (h : ¬ StartsToken text) :
    StartsToken (text ++ token content) ↔
      ∃ inner, text ++ ['{', '{'] = '{' :: '{' :: inner ∧ '}' ∉ inner := by
  constructor
  · rintro ⟨found, rest, hfound, hsplit⟩
    rw [token_append] at hsplit
    obtain ⟨first, text, rfl⟩ := List.exists_cons_of_ne_nil hne
    rw [List.cons_append, List.cons.injEq] at hsplit
    obtain ⟨rfl, hsplit⟩ := hsplit
    cases text with
    | nil => exact ⟨['{'], rfl, by simp⟩
    | cons second text =>
      rw [List.cons_append, List.cons.injEq] at hsplit
      obtain ⟨rfl, hsplit⟩ := hsplit
      refine ⟨text ++ ['{', '{'], rfl, ?_⟩
      have htext : '}' ∉ text := by
        rcases List.append_eq_append_iff.1 hsplit with ⟨extra, rfl, _⟩ | ⟨extra, rfl, hextra⟩
        · -- the text goes on in the content
          exact fun hmem => hfound.2 (List.mem_append_left _ hmem)
        · -- the content ends inside the text: its braces are not those of the token behind
          rcases extra with _ | ⟨brace, _ | ⟨last, extra⟩⟩
          · simp [token] at hextra
          · simp [token] at hextra
          · simp only [List.cons_append, List.cons.injEq] at hextra
            obtain ⟨rfl, rfl, _⟩ := hextra
            exact absurd ⟨found, extra, hfound, by simp [token]⟩ h
      simp [htext]
  · rintro ⟨inner, htext, hinner⟩
    obtain ⟨hinside, hwhole⟩ := append_token_of_unclosed hcontent htext hinner
    exact ⟨inner ++ content, [], hinside, by rw [hwhole, List.append_nil]⟩

end Behind

/-- Text at which no token starts is kept. -/
theorem renderChars_append {text behind : List Char} (h : Untouched text behind)
    (values : Bindings String) :
    renderChars values (text ++ behind) = text ++ renderChars values behind := by
  induction text with
  | nil => rfl
  | cons c text ih =>
    obtain ⟨hfirst, hrest⟩ := untouched_cons_iff.1 h
    rw [List.cons_append] at hfirst ⊢
    rw [renderChars_char hfirst, ih hrest, List.cons_append]

/-- What stands before the first opening is kept, and all from it on is one token. -/
theorem renderChars_append_token {text before inner content : List Char} (h : Untouched text [])
    (hopens : Opens (text ++ ['{', '{']) before inner) (hcontent : IsContent content)
    (values : Bindings String) :
    renderChars values (text ++ token content) =
      before ++ ((values.get? (keyOf (inner ++ content))).getD "").toList := by
  -- the braces of the token are an opening, so the first one is not behind them
  have hlength : before.length ≤ text.length := hopens.first text [] rfl (by simp)
  obtain ⟨after, rfl⟩ : before <+: text :=
    List.prefix_of_prefix_length_le ⟨_, hopens.parts.symm⟩ (List.prefix_append text _) hlength
  have hafter : after ++ ['{', '{'] = '{' :: '{' :: inner := by
    have hparts := hopens.parts
    rwa [List.append_assoc, List.append_cancel_left_eq] at hparts
  obtain ⟨hinside, hwhole⟩ := append_token_of_unclosed hcontent hafter hopens.unclosed
  have hkept : Untouched before (after ++ token content) := by
    rintro earlier late rfl hlate htoken
    have hnone : ¬ StartsToken (late ++ after) := by
      have := h earlier (late ++ after) (by simp) (by simp [hlate])
      rwa [List.append_nil] at this
    rw [← List.append_assoc, startsToken_append_token_iff hcontent (by simp [hlate]) hnone] at htoken
    obtain ⟨rest, hrest, hunclosed⟩ := htoken
    have hearlier := hopens.first earlier rest (by simp [← hrest]) hunclosed
    rw [List.length_append] at hearlier
    exact hlate (List.eq_nil_of_length_eq_zero (by omega))
  have htoken := renderChars_token hinside [] values
  rw [List.append_nil, renderChars, List.append_nil] at htoken
  rw [List.append_assoc, renderChars_append hkept, hwhole, htoken]

/-- **A token behind a text.** Of a text that stays as it is whatever it is rendered with, and a token
of a key without braces behind it, what stands before the first opening is kept, and all from it on is
replaced by one value. So the text is kept and the token replaced by the value of its key, for all
values, exactly if no other opening comes before the token's own. -/
theorem render_append_token {text key : String} (htext : ∀ values, render values text = text)
    (hkey : ¬ Text.allBlank key) (hclose : '}' ∉ key.toList) :
    ∃ before inner, Opens (text.toList ++ ['{', '{']) before inner ∧
      (∀ values, render values (text ++ "\x7b\x7b" ++ key ++ "\x7d\x7d") =
        String.ofList before ++ (values.get? (keyOf (inner ++ key.toList))).getD "") ∧
      ((∀ values, render values (text ++ "\x7b\x7b" ++ key ++ "\x7d\x7d") =
          text ++ (values.get? (Text.trim key)).getD "") ↔ inner = []) := by
  have hcontent : IsContent key.toList := by
    refine ⟨fun hnil => hkey ?_, hclose⟩
    rw [Text.allBlank, hnil]
    rfl
  obtain ⟨before, inner, hopens⟩ : ∃ before inner, Opens (text.toList ++ ['{', '{']) before inner :=
    exists_opens ⟨text.toList, [], rfl, by simp⟩
  have hrender : ∀ values, render values (text ++ "\x7b\x7b" ++ key ++ "\x7d\x7d") =
      String.ofList before ++ (values.get? (keyOf (inner ++ key.toList))).getD "" := by
    intro values
    have hchars : (text ++ "\x7b\x7b" ++ key ++ "\x7d\x7d").toList =
        text.toList ++ token key.toList := by simp [token]
    rw [render, hchars, renderChars_append_token (untouched_of_render htext) hopens hcontent,
      String.ofList_append, String.ofList_toList]
  refine ⟨before, inner, hopens, hrender, fun hkept => ?_, fun hinner values => ?_⟩
  · -- without values all that is left is the text before the opening
    have hempty := (hrender .empty).symm.trans (hkept .empty)
    simp only [Bindings.get?_empty, Option.getD_none, String.append_empty] at hempty
    have hparts := hopens.parts
    rw [← hempty, String.toList_ofList, List.append_cancel_left_eq] at hparts
    simpa using hparts
  · have hparts := hopens.parts
    rw [hinner, List.append_cancel_right_eq] at hparts
    rw [hrender, hinner, ← hparts, String.ofList_toList]
    rfl

/-- An opening that a closing brace follows, and one that none follows. -/
def openBraces : String := "\x7b\x7b a \x7d \x7b\x7b b \x7b"

theorem render_openBraces : ∀ values, render values openBraces = openBraces :=
  render_of_untouched (untouched_of_keys (by decide +kernel))

/-- The second opening takes the token behind it into its content. -/
theorem render_append_token_openBraces :
    (∀ values, render values openBraces = openBraces) ∧ ¬ Text.allBlank "x" ∧
      '}' ∉ "x".toList ∧
      (∃ before inner, Opens (openBraces.toList ++ ['{', '{']) before inner ∧
        ∀ values, render values (openBraces ++ "\x7b\x7b" ++ "x" ++ "\x7d\x7d") =
          String.ofList before ++ (values.get? (keyOf (inner ++ "x".toList))).getD "") ∧
      render (Bindings.empty.insert "b \x7b\x7b\x7bx" "-")
        (openBraces ++ "\x7b\x7b" ++ "x" ++ "\x7d\x7d") = "\x7b\x7b a \x7d -" := by
  have hblank : ¬ Text.allBlank "x" := by decide
  have hclose : '}' ∉ "x".toList := by decide
  obtain ⟨before, inner, hopens, hrender, _⟩ := render_append_token render_openBraces hblank hclose
  exact ⟨render_openBraces, hblank, hclose, ⟨before, inner, hopens, hrender⟩, by decide +kernel⟩

/-- A brace before a token is not kept: it goes into the content, and the key is another one. -/
theorem openBrace_not_kept :
    (∀ values, render values "\x7b" = "\x7b") ∧ ¬ Text.allBlank "x" ∧ '{' ∉ "x".toList ∧
      '}' ∉ "x".toList ∧
      render (Bindings.empty.insert "x" "1") ("\x7b" ++ "\x7b\x7b" ++ "x" ++ "\x7d\x7d") ≠
        "\x7b" ++ ((Bindings.empty.insert "x" "1").get? (Text.trim "x")).getD "" := by
  have hbrace : Untouched "\x7b".toList [] := untouched_of_keys (by decide +kernel)
  exact ⟨render_of_untouched hbrace, by decide, by decide, by decide, by decide +kernel⟩

end ScreenFlow.Template
