import ScreenFlow.Proofs.Template.Token

/-!
# Templates taken apart

A template is a row of texts and tokens in which no token starts inside a text (`Parts.Divides`).
There is exactly one such row (`divides_iff`): the first token starts where the first text ends, and
the rest of the template is taken apart behind it.

Rendering keeps the texts and puts in the value of each token's key (`renderChars_eq_fill`). What is
put in stands between the texts as it is, and no other value matters (`render_fills`).
-/

namespace ScreenFlow.Template

/-- A row of texts and tokens: each text but the last one has a token behind it, given by its content.
-/
inductive Parts
  | last (text : List Char)
  | token (text content : List Char) (rest : Parts)

/-- No token starts inside a text that has something behind it. -/
def Untouched (text behind : List Char) : Prop :=
  ∀ before after, text = before ++ after → after ≠ [] → ¬ StartsToken (after ++ behind)

namespace Parts

/-- The row as one text. -/
def chars : Parts → List Char
  | last text => text
  | token text content rest => text ++ (Template.token content ++ rest.chars)

/-- The keys of the tokens. -/
def keys : Parts → List String
  | last _ => []
  | token _ content rest => keyOf content :: rest.keys

/-- The row with the value of its key for each token, or nothing if the key has none. -/
def fill (values : Bindings String) : Parts → List Char
  | last text => text
  | token text content rest =>
    text ++ (((values.get? (keyOf content)).getD "").toList ++ rest.fill values)

/-- The tokens are tokens, and no other ones start inside the texts. -/
def Proper : Parts → Prop
  | last text => Untouched text []
  | token text content rest =>
    Untouched text (Template.token content ++ rest.chars) ∧ IsContent content ∧ rest.Proper

/-- The row is what a text is made of. -/
def Divides (parts : Parts) (cs : List Char) : Prop := parts.Proper ∧ parts.chars = cs

/-- The row with one more character at its front. -/
def prepend (c : Char) : Parts → Parts
  | last text => last (c :: text)
  | token text content rest => token (c :: text) content rest

@[simp] theorem chars_prepend (c : Char) (parts : Parts) :
    (parts.prepend c).chars = c :: parts.chars := by
  cases parts <;> rfl

@[simp] theorem fill_prepend (values : Bindings String) (c : Char) (parts : Parts) :
    (parts.prepend c).fill values = c :: parts.fill values := by
  cases parts <;> rfl

/-- Only the values of the keys matter. -/
theorem fill_congr {values others : Bindings String} {parts : Parts}
    (h : ∀ key ∈ parts.keys, (values.get? key).getD "" = (others.get? key).getD "") :
    parts.fill values = parts.fill others := by
  induction parts with
  | last text => rfl
  | token text content rest ih =>
    obtain ⟨hkey, hrest⟩ := List.forall_mem_cons.1 h
    rw [fill, fill, hkey, ih hrest]

end Parts

/-! ## Texts without tokens -/

theorem untouched_nil (behind : List Char) : Untouched [] behind := by
  intro before after hsplit hne
  exact absurd (List.nil_eq_append_iff.1 hsplit).2 hne

theorem untouched_cons_iff {c : Char} {text behind : List Char} :
    Untouched (c :: text) behind ↔
      ¬ StartsToken (c :: text ++ behind) ∧ Untouched text behind := by
  constructor
  · intro h
    exact ⟨h [] (c :: text) rfl (List.cons_ne_nil _ _),
      fun before after hsplit => h (c :: before) after (by rw [hsplit]; rfl)⟩
  · rintro ⟨hfirst, hrest⟩ before after hsplit hne
    rcases List.cons_eq_append_iff.1 hsplit with ⟨_, rfl⟩ | ⟨before, _, htext⟩
    · exact hfirst
    · exact hrest before after htext hne

theorem Parts.Proper.prepend {c : Char} {parts : Parts} (h : ¬ StartsToken (c :: parts.chars))
    (hparts : parts.Proper) : (parts.prepend c).Proper := by
  cases parts with
  | last text =>
    refine untouched_cons_iff.2 ⟨?_, hparts⟩
    rwa [List.append_nil]
  | token text content rest => exact ⟨untouched_cons_iff.2 ⟨h, hparts.1⟩, hparts.2⟩

/-! ## Taking a text apart -/

/-- The row that a text is made of. -/
def divide (cs : List Char) : Parts :=
  match cs with
  | [] => .last []
  | c :: cs =>
    match _h : tokenAt (c :: cs) with
    | some (content, rest) => .token [] content (divide rest)
    | none => (divide cs).prepend c
termination_by cs.length
decreasing_by
  · exact length_of_tokenAt _h
  · simp

/-- A text is empty, or has a token at its front, or a character at which none starts. -/
theorem scan_induction {motive : List Char → Prop} (nil : motive [])
    (token : ∀ content rest, IsContent content → motive rest → motive (token content ++ rest))
    (char : ∀ c cs, ¬ StartsToken (c :: cs) → motive cs → motive (c :: cs)) (cs : List Char) :
    motive cs := by
  fun_induction divide cs with
  | case1 => exact nil
  | case2 c cs content rest htoken ih =>
    obtain ⟨hcontent, hcs⟩ := tokenAt_eq_some_iff.1 htoken
    rw [hcs]
    exact token content rest hcontent ih
  | case3 c cs htoken ih => exact char c cs (tokenAt_eq_none_iff.1 htoken) ih

section AtToken

variable {content : List Char} (hcontent : IsContent content) (rest : List Char)

include hcontent

theorem divide_token : divide (token content ++ rest) = .token [] content (divide rest) := by
  have htoken := tokenAt_token hcontent rest
  rw [token_append] at htoken ⊢
  rw [divide]
  split
  next found =>
    rw [found, Option.some.injEq, Prod.mk.injEq] at htoken
    rw [htoken.1, htoken.2]
  next missing =>
    rw [missing] at htoken
    cases htoken

theorem renderChars_token (values : Bindings String) :
    renderChars values (token content ++ rest) =
      ((values.get? (keyOf content)).getD "").toList ++ renderChars values rest := by
  have htoken := tokenAt_token hcontent rest
  rw [token_append] at htoken ⊢
  rw [renderChars]
  split
  next found =>
    rw [found, Option.some.injEq, Prod.mk.injEq] at htoken
    rw [htoken.1, htoken.2]
  next missing =>
    rw [missing] at htoken
    cases htoken

end AtToken

section AtChar

variable {c : Char} {cs : List Char} (h : ¬ StartsToken (c :: cs))

include h

theorem divide_char : divide (c :: cs) = (divide cs).prepend c := by
  rw [divide]
  split
  next found => cases found.symm.trans (tokenAt_eq_none_iff.2 h)
  next => rfl

theorem renderChars_char (values : Bindings String) :
    renderChars values (c :: cs) = c :: renderChars values cs := by
  rw [renderChars]
  split
  next found => cases found.symm.trans (tokenAt_eq_none_iff.2 h)
  next => rfl

end AtChar

theorem divides_divide (cs : List Char) : (divide cs).Divides cs := by
  induction cs using scan_induction with
  | nil =>
    rw [divide]
    exact ⟨untouched_nil [], rfl⟩
  | token content rest hcontent ih =>
    rw [divide_token hcontent]
    refine ⟨⟨untouched_nil _, hcontent, ih.1⟩, ?_⟩
    rw [Parts.chars, ih.2, List.nil_append]
  | char c cs h ih =>
    rw [divide_char h]
    refine ⟨ih.1.prepend ?_, ?_⟩
    · rwa [ih.2]
    · rw [Parts.chars_prepend, ih.2]

/-- Text at which no token starts comes first in the row. -/
theorem divide_append {text behind : List Char} (h : Untouched text behind) :
    divide (text ++ behind) = text.foldr Parts.prepend (divide behind) := by
  induction text with
  | nil => rfl
  | cons c text ih =>
    obtain ⟨hfirst, hrest⟩ := untouched_cons_iff.1 h
    rw [List.cons_append] at hfirst ⊢
    rw [divide_char hfirst, ih hrest]
    rfl

theorem foldr_prepend_last (text after : List Char) :
    text.foldr Parts.prepend (.last after) = .last (text ++ after) := by
  induction text with
  | nil => rfl
  | cons c text ih =>
    rw [List.foldr_cons, ih]
    rfl

theorem foldr_prepend_token (text after content : List Char) (rest : Parts) :
    text.foldr Parts.prepend (.token after content rest) = .token (text ++ after) content rest := by
  induction text with
  | nil => rfl
  | cons c text ih =>
    rw [List.foldr_cons, ih]
    rfl

theorem divide_chars {parts : Parts} (h : parts.Proper) : divide parts.chars = parts := by
  induction parts with
  | last text =>
    have hlast := divide_append h
    rw [List.append_nil, divide, foldr_prepend_last, List.append_nil] at hlast
    exact hlast
  | token text content rest ih =>
    obtain ⟨huntouched, hcontent, hrest⟩ := h
    rw [Parts.chars, divide_append huntouched, divide_token hcontent, ih hrest, foldr_prepend_token,
      List.append_nil]

/-- There is exactly one row that a text is made of. -/
theorem divides_iff {parts : Parts} {cs : List Char} : parts.Divides cs ↔ parts = divide cs := by
  constructor
  · rintro ⟨hproper, rfl⟩
    exact (divide_chars hproper).symm
  · rintro rfl
    exact divides_divide cs

/-! ## Rendering -/

theorem renderChars_eq_fill (values : Bindings String) (cs : List Char) :
    renderChars values cs = (divide cs).fill values := by
  induction cs using scan_induction with
  | nil =>
    rw [renderChars, divide]
    rfl
  | token content rest hcontent ih =>
    rw [renderChars_token hcontent, divide_token hcontent, ih]
    rfl
  | char c cs h ih => rw [renderChars_char h, divide_char h, ih, Parts.fill_prepend]

/-- The keys of the tokens of a template. -/
def keys (template : String) : List String := (divide template.toList).keys

theorem render_congr {values others : Bindings String} {template : String}
    (h : ∀ key ∈ keys template, (values.get? key).getD "" = (others.get? key).getD "") :
    render values template = render others template := by
  unfold render
  rw [renderChars_eq_fill, renderChars_eq_fill, Parts.fill_congr h]

/-- **Templates.** There is exactly one row of texts and tokens of which a template is made without
a token that starts inside a text. Rendering comes to the texts of the row as they are, and between
them to the values of the keys as they are, so values that agree on these keys come to the same. -/
theorem render_fills (template : String) :
    ∃ parts : Parts, (∀ other : Parts, other.Divides template.toList ↔ other = parts) ∧
      (∀ values, render values template = String.ofList (parts.fill values)) ∧
      ∀ values others : Bindings String,
        (∀ key ∈ parts.keys, (values.get? key).getD "" = (others.get? key).getD "") →
          render values template = render others template := by
  refine ⟨divide template.toList, fun _ => divides_iff, fun values => ?_, fun _ _ => render_congr⟩
  unfold render
  rw [renderChars_eq_fill]

end ScreenFlow.Template
