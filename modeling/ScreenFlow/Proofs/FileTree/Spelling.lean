import Mathlib.Data.List.Forall2
import ScreenFlow.FileTree.Path
import ScreenFlow.Proofs.Text.Lines

/-!
# How paths are spelled

A path is spelled as its names with slashes between them. Names without slashes are found again in it
(`Path.components_intercalate`), so it is the path of no other names (`Path.intercalate_injective`).
-/

namespace ScreenFlow

namespace Text

theorem fromUTF8?_eq_some_iff {bytes : ByteArray} {text : String} :
    String.fromUTF8? bytes = some text ↔ bytes = text.toUTF8 := by
  constructor
  · intro h
    unfold String.fromUTF8? at h
    split at h
    · obtain rfl := Option.some.inj h
      rfl
    · cases h
  · rintro rfl
    have hdecode := decode_toUTF8 text
    unfold decode at hdecode
    cases hbytes : String.fromUTF8? text.toUTF8 with
    | some other =>
      rw [hbytes] at hdecode
      exact congrArg some (Except.ok.inj hdecode)
    | none =>
      rw [hbytes] at hdecode
      cases hdecode

theorem toUTF8_injective {text other : String} (h : text.toUTF8 = other.toUTF8) : text = other := by
  have hsame : some text = some other := by
    rw [← fromUTF8?_eq_some_iff.2 rfl, h, fromUTF8?_eq_some_iff.2 rfl]
  exact Option.some.inj hsame

end Text

namespace Path

/-- The byte between the names of a path. -/
def slash : UInt8 := 0x2F

theorem slash_notMem_of_toUTF8 {name : String} (h : slash ∉ name.toUTF8.data.toList) :
    '/' ∉ name.toList := by
  intro hchar
  obtain ⟨before, behind, hname⟩ := List.append_of_mem hchar
  have hbytes : name.toUTF8.data.toList = Text.bytesOf name.toList := by
    rw [← String.ofList_toList (s := name), ← Text.toByteArray_bytesOf, List.toList_data_toByteArray,
      String.toList_ofList]
  rw [hbytes, hname] at h
  refine h ?_
  rw [Text.bytesOf_append]
  exact List.mem_append_right _ (List.mem_append_left _ (by decide))

/-! ## The components of a path -/

theorem componentChars_ne_nil (chars : List Char) : componentChars chars ≠ [] := by
  fun_cases componentChars chars <;> simp_all

theorem componentChars_cons {char : Char} (hchar : char ≠ '/') (chars : List Char) :
    ∃ first rest, componentChars chars = first :: rest ∧
      componentChars (char :: chars) = (char :: first) :: rest := by
  cases hrest : componentChars chars with
  | nil => exact absurd hrest (componentChars_ne_nil chars)
  | cons first rest =>
    refine ⟨first, rest, rfl, ?_⟩
    rw [componentChars.eq_3 _ _ (fun h => hchar h), hrest]

/-- A slash ends a component. -/
theorem componentChars_append (chars more : List Char) :
    componentChars (chars ++ '/' :: more) = componentChars chars ++ componentChars more := by
  induction chars with
  | nil => rfl
  | cons char chars ih =>
    by_cases hchar : char = '/'
    · subst hchar
      show [] :: componentChars (chars ++ '/' :: more) = _
      rw [ih]
      rfl
    · obtain ⟨first, rest, hrest, hwhole⟩ := componentChars_cons hchar chars
      obtain ⟨_, _, hlong, hlonger⟩ := componentChars_cons hchar (chars ++ '/' :: more)
      rw [ih, hrest] at hlong
      obtain ⟨rfl, rfl⟩ := List.cons.inj hlong
      rw [List.cons_append, hlonger, hwhole]
      rfl

theorem componentChars_of_plain {chars : List Char} (h : '/' ∉ chars) :
    componentChars chars = [chars] := by
  induction chars with
  | nil => rfl
  | cons char chars ih =>
    obtain ⟨hchar, hchars⟩ := List.ne_and_not_mem_of_not_mem_cons h
    obtain ⟨first, rest, hrest, hwhole⟩ := componentChars_cons hchar.symm chars
    rw [ih hchars] at hrest
    obtain ⟨rfl, rfl⟩ := List.cons.inj hrest
    exact hwhole

theorem toList_intercalate_cons_cons (name next : String) (rest : List String) :
    ("/".intercalate (name :: next :: rest)).toList =
      name.toList ++ '/' :: ("/".intercalate (next :: rest)).toList := by
  rw [String.intercalate_cons_cons, String.toList_append, String.toList_append, List.append_assoc]
  rfl

/-- Names without slashes are the components of their path. -/
theorem components_intercalate {names : List String} (hnonempty : names ≠ [])
    (hplain : ∀ name ∈ names, '/' ∉ name.toList) : components ("/".intercalate names) = names := by
  induction names with
  | nil => exact absurd rfl hnonempty
  | cons name names ih =>
    have hname : '/' ∉ name.toList := hplain name List.mem_cons_self
    cases names with
    | nil =>
      rw [String.intercalate_singleton, components, componentChars_of_plain hname, List.map_singleton,
        String.ofList_toList]
    | cons next rest =>
      have hrest := ih (List.cons_ne_nil _ _) fun other hother =>
        hplain other (List.mem_cons_of_mem _ hother)
      unfold components at hrest ⊢
      rw [toList_intercalate_cons_cons, componentChars_append, List.map_append, hrest,
        componentChars_of_plain hname, List.map_singleton, String.ofList_toList]
      rfl

/-- Different names without slashes have different paths. -/
theorem intercalate_injective {names others : List String} (hnames : names ≠ [])
    (hothers : others ≠ []) (hplain : ∀ name ∈ names, '/' ∉ name.toList)
    (hotherPlain : ∀ name ∈ others, '/' ∉ name.toList)
    (h : "/".intercalate names = "/".intercalate others) : names = others := by
  rw [← components_intercalate hnames hplain, h, components_intercalate hothers hotherPlain]

/-! ## Names that are texts -/

theorem mapM_fromUTF8?_eq_some_iff {names : List ByteArray} {texts : List String} :
    names.mapM String.fromUTF8? = some texts ↔ names = texts.map String.toUTF8 := by
  induction names generalizing texts with
  | nil =>
    rw [List.mapM_nil]
    constructor
    · intro h
      obtain rfl := Option.some.inj h
      rfl
    · intro h
      rw [List.map_eq_nil_iff.1 h.symm]
      rfl
  | cons name names ih =>
    rw [List.mapM_cons]
    simp only [Option.bind_eq_bind, Option.bind_eq_some_iff, Option.pure_def, Option.some.injEq,
      Text.fromUTF8?_eq_some_iff, ih]
    constructor
    · rintro ⟨text, rfl, rest, rfl, rfl⟩
      rfl
    · intro h
      cases texts with
      | nil => cases h
      | cons text rest =>
        obtain ⟨hname, hnames⟩ := List.cons.inj h
        exact ⟨text, hname, rest, hnames, rfl⟩

theorem ofNames?_eq_some_iff {names : List ByteArray} {path : String} :
    ofNames? names = some path ↔
      ∃ texts : List String, names = texts.map String.toUTF8 ∧ "/".intercalate texts = path := by
  simp only [ofNames?, Option.map_eq_some_iff, mapM_fromUTF8?_eq_some_iff]

end Path

end ScreenFlow
