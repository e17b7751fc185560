import ScreenFlow.Proofs.Template.Parts

/-!
# Rendered once and for all

A value is `Plain` if it has a character and no braces. Where a token is replaced by a plain value,
nothing can come to be a token that was none (`untouched_fill`):

1. two braces of one kind stand side by side only inside one text of the template, since a plain value
   is between the texts;
2. a token that starts inside a text and ends inside it was there before;
3. one that starts inside a text and ends behind it has no closing brace up to the end of that text,
   so with the token that stood there the text had one already (`StartsToken.behind_token`).

So a template rendered with plain values stays as it is, whatever it is rendered with again
(`render_render_of_plain`).
-/

namespace ScreenFlow.Template

/-- A value with a character and no braces. -/
def Plain (value : String) : Prop := value ≠ "" ∧ '{' ∉ value.toList ∧ '}' ∉ value.toList

instance (value : String) : Decidable (Plain value) :=
  inferInstanceAs (Decidable (value ≠ "" ∧ '{' ∉ value.toList ∧ '}' ∉ value.toList))

/-! ## Texts side by side -/

theorem untouched_append_iff {text more behind : List Char} :
    Untouched (text ++ more) behind ↔ Untouched text (more ++ behind) ∧ Untouched more behind := by
  induction text with
  | nil => exact (and_iff_right (untouched_nil _)).symm
  | cons c text ih =>
    rw [List.cons_append, untouched_cons_iff, untouched_cons_iff, ih, and_assoc, List.cons_append,
      List.cons_append, List.append_assoc]

/-- No token starts where there is no opening brace. -/
theorem untouched_of_notMem {text : List Char} (h : '{' ∉ text) (behind : List Char) :
    Untouched text behind := by
  rintro before after rfl hne ⟨content, rest, _, htoken⟩
  obtain ⟨c, after, rfl⟩ := List.exists_cons_of_ne_nil hne
  rw [token_append] at htoken
  obtain ⟨rfl, _⟩ := List.cons.inj htoken
  exact h (List.mem_append_right _ List.mem_cons_self)

/-- A token that starts before a character that is no brace starts as well before a token in place of
that character and what comes after it. -/
theorem StartsToken.behind_token {text more content rest : List Char} {c : Char} (hne : text ≠ [])
    (hopen : c ≠ '{') (hclose : c ≠ '}') (h : StartsToken (text ++ c :: more))
    (hcontent : IsContent content) : StartsToken (text ++ (token content ++ rest)) := by
  obtain ⟨inner, tail, hinner, hsplit⟩ := h
  rw [token_append] at hsplit
  obtain ⟨first, text, rfl⟩ := List.exists_cons_of_ne_nil hne
  rw [List.cons_append, List.cons.injEq] at hsplit
  obtain ⟨rfl, hsplit⟩ := hsplit
  cases text with
  | nil => exact absurd (List.cons.inj hsplit).1 hopen
  | cons second text =>
    rw [List.cons_append, List.cons.injEq] at hsplit
    obtain ⟨rfl, hsplit⟩ := hsplit
    rcases List.append_eq_append_iff.1 hsplit with ⟨extra, rfl, _⟩ | ⟨extra, rfl, hextra⟩
    · -- the text has no closing brace, so the content goes on up to the end of the token behind it
      refine ⟨text ++ '{' :: '{' :: content, rest, ⟨by simp, ?_⟩, by simp [token]⟩
      have htext : '}' ∉ text := fun hmem => hinner.2 (List.mem_append_left _ hmem)
      simp [htext, hcontent.2]
    · -- the content ends inside the text, and so does the token: its braces are side by side
      rcases extra with _ | ⟨brace, _ | ⟨last, extra⟩⟩
      · exact absurd (List.cons.inj hextra).1.symm hclose
      · exact absurd (List.cons.inj (List.cons.inj hextra).2).1.symm hclose
      · simp only [List.cons_append, List.cons.injEq] at hextra
        obtain ⟨rfl, rfl, _⟩ := hextra
        exact ⟨inner, extra ++ (token content ++ rest), hinner, by simp [token]⟩

/-! ## Plain values -/

/-- With plain values in place of the tokens no token is left. -/
theorem untouched_fill {values : Bindings String} {parts : Parts} (h : parts.Proper)
    (hplain : ∀ key ∈ parts.keys, Plain ((values.get? key).getD "")) :
    Untouched (parts.fill values) [] := by
  induction parts with
  | last text => exact h
  | token text content rest ih =>
    obtain ⟨huntouched, hcontent, hrest⟩ := h
    obtain ⟨⟨hne, hopen, hclose⟩, hothers⟩ := List.forall_mem_cons.1 hplain
    rw [Parts.fill]
    generalize (values.get? (keyOf content)).getD "" = value at hne hopen hclose ⊢
    refine untouched_append_iff.2 ⟨?_, untouched_append_iff.2
      ⟨untouched_of_notMem hopen _, ih hrest hothers⟩⟩
    obtain ⟨c, more, hvalue⟩ := List.exists_cons_of_ne_nil (l := value.toList) (by simpa using hne)
    rw [hvalue] at hopen hclose ⊢
    rintro before after rfl hafter htoken
    refine huntouched before after rfl hafter ?_
    exact htoken.behind_token hafter (fun hc => hopen (hc ▸ List.mem_cons_self))
      (fun hc => hclose (hc ▸ List.mem_cons_self)) hcontent

/-- A text without tokens stays as it is. -/
theorem render_of_untouched {text : String} (h : Untouched text.toList []) (values : Bindings String) :
    render values text = text := by
  have hlast : (Parts.last text.toList).Divides text.toList := ⟨h, rfl⟩
  have hdivide : divide text.toList = .last text.toList := (divides_iff.1 hlast).symm
  rw [render, renderChars_eq_fill, hdivide]
  exact String.ofList_toList

/-- **Rendering once.** If each key of a template has a plain value, then the template with its tokens
replaced has no token anywhere, and is not changed by rendering it again with any values. -/
theorem render_render_of_plain {values : Bindings String} {template : String}
    (h : ∀ key ∈ keys template, ∃ value, values.get? key = some value ∧ Plain value) :
    Untouched (render values template).toList [] ∧
      ∀ others, render others (render values template) = render values template := by
  have huntouched : Untouched (render values template).toList [] := by
    rw [render, String.toList_ofList, renderChars_eq_fill]
    refine untouched_fill (divides_divide _).1 fun key hkey => ?_
    obtain ⟨value, hvalue, hplain⟩ := h key hkey
    rwa [hvalue]
  exact ⟨huntouched, render_of_untouched huntouched⟩

/-- A token between braces that belong to none. -/
def strayBraces : String := "\x7b\x7b a \x7d\x7b\x7bx\x7d\x7d\x7d b"

/-- A dash keeps these braces apart. -/
theorem render_render_of_plain_strayBraces :
    (∀ key ∈ keys strayBraces, ∃ value,
        (Bindings.empty.insert "x" "-").get? key = some value ∧ Plain value) ∧
      render (Bindings.empty.insert "x" "-") strayBraces = "\x7b\x7b a \x7d-\x7d b" ∧
      Untouched (render (Bindings.empty.insert "x" "-") strayBraces).toList [] ∧
      ∀ others, render others (render (Bindings.empty.insert "x" "-") strayBraces) =
        render (Bindings.empty.insert "x" "-") strayBraces := by
  have hkeys : keys strayBraces = ["x"] := by decide +kernel
  have hplain : ∀ key ∈ keys strayBraces, ∃ value,
      (Bindings.empty.insert "x" "-").get? key = some value ∧ Plain value := by
    rw [hkeys]
    exact List.forall_mem_singleton.2 ⟨"-", by decide, by decide⟩
  exact ⟨hplain, by decide +kernel, render_render_of_plain hplain⟩

/-- Without a value between them the braces become a token. -/
example : render .empty "\x7b\x7b a \x7d\x7b\x7bx\x7d\x7d\x7d b" = "\x7b\x7b a \x7d\x7d b" ∧
    render .empty "\x7b\x7b a \x7d\x7d b" = " b" := by
  decide +kernel

end ScreenFlow.Template
