import ScreenFlow.Assets.Loading
import ScreenFlow.Proofs.Checks
import ScreenFlow.Proofs.Codec.Form
import ScreenFlow.Proofs.FileTree.Below

/-!
# Searching for assets

What has been found below a directory is searched for assets, and that fails at what stops the search
(`Assets.Stops`). If nothing does, each asset among what has been found is bound to its path, and
nothing else is (`Assets.get?_ofAllFound`): different files have different paths.
-/

namespace ScreenFlow

/-- Some names are the ones of an asset: the last of them says so. -/
def Assets.AreNames (names : List String) : Prop :=
  ∃ name, names.getLast? = some name ∧ Assets.isAsset name

/-- A file below a node is an asset: its names are texts, and the last of them says so. -/
def Node.HasAsset (node : Node) (names : List String) (content : ByteArray) : Prop :=
  node.LeadsTo (names.map String.toUTF8) (.file content) ∧ Assets.AreNames names

namespace Assets

variable {root : String}

/-! ## Names of assets -/

theorem map_toUTF8_injective {names others : List String}
    (h : names.map String.toUTF8 = others.map String.toUTF8) : names = others :=
  List.map_injective_iff.2 (fun _ _ => Text.toUTF8_injective) h

theorem isAsset_iff {path : String} :
    isAsset path = true ↔ Image.assetSuffix.toList <:+ path.toList := by
  unfold isAsset
  rw [String.endsWith_eq_endsWith_toSlice, String.Slice.endsWith_string_iff, String.copy_toSlice]

/-- Only what is behind the last slash of a path says whether it is the path of an asset. -/
theorem assetSuffix_append_iff {before behind : List Char} :
    Image.assetSuffix.toList <:+ before ++ '/' :: behind ↔ Image.assetSuffix.toList <:+ behind := by
  have hplain : '/' ∉ Image.assetSuffix.toList := by decide
  have hbehind : behind <:+ before ++ '/' :: behind :=
    List.suffix_append_of_suffix (List.suffix_cons '/' behind)
  constructor
  · intro h
    rcases List.suffix_or_suffix_of_suffix h (List.suffix_append before ('/' :: behind)) with h | h
    · rcases List.suffix_cons_iff.1 h with h | h
      · rw [h] at hplain
        exact absurd List.mem_cons_self hplain
      · exact h
    · exact absurd (h.subset List.mem_cons_self) hplain
  · intro h
    exact h.trans hbehind

theorem isAsset_intercalate {names : List String} {name : String}
    (h : names.getLast? = some name) : isAsset ("/".intercalate names) = isAsset name := by
  induction names with
  | nil => cases h
  | cons first names ih =>
    cases names with
    | nil =>
      obtain rfl : first = name := Option.some.inj h
      rw [String.intercalate_singleton]
    | cons next rest =>
      rw [List.getLast?_cons_cons] at h
      rw [← ih h, Bool.eq_iff_iff, isAsset_iff, isAsset_iff, Path.toList_intercalate_cons_cons,
        assetSuffix_append_iff]

theorem areNames_iff {names : List String} :
    AreNames names ↔ isAsset ("/".intercalate names) = true := by
  unfold AreNames
  cases hlast : names.getLast? with
  | none =>
    rw [List.getLast?_eq_none_iff.1 hlast]
    refine iff_of_false (fun ⟨_, h, _⟩ => nomatch h) ?_
    decide
  | some name =>
    rw [isAsset_intercalate hlast]
    simp

theorem AreNames.ne_nil {names : List String} (h : AreNames names) : names ≠ [] := by
  obtain ⟨name, hlast, _⟩ := h
  rintro rfl
  cases hlast

/-- In a proper tree no name of an asset holds a slash. -/
theorem plain_of_hasAsset {node : Node} (hproper : node.Proper) {names : List String}
    {content : ByteArray} (h : node.HasAsset names content) : ∀ name ∈ names, '/' ∉ name.toList :=
  fun _ hname => Path.slash_notMem_of_toUTF8 (h.1.plain hproper _ (List.mem_map_of_mem hname))

/-- In a proper tree an asset is the only one of its path. -/
theorem unique_of_path {node : Node} (hproper : node.Proper) {names others : List String}
    {content other : ByteArray} (h : node.HasAsset names content) (hother : node.HasAsset others other)
    (hpath : "/".intercalate names = "/".intercalate others) : names = others ∧ content = other := by
  obtain rfl := Path.intercalate_injective h.2.ne_nil hother.2.ne_nil (plain_of_hasAsset hproper h)
    (plain_of_hasAsset hproper hother) hpath
  exact ⟨rfl, Node.file.inj (h.1.unique hproper hother.1)⟩

/-! ## What has been found -/

/-- An asset cannot be read: its path is too long, or it is no text. -/
def Unreadable (root : String) (names : List String) (content : ByteArray) : Prop :=
  Path.isLongBelow root (names.map String.toUTF8) ∨ String.fromUTF8? content = none

/-- What has been found stops the search: a directory whose path is too long, or an asset that cannot
be read. -/
def Stops (root : String) (names : List ByteArray) : Node → Prop
  | .directory _ => Path.isLongBelow root names
  | .file content =>
    ∃ texts : List String, names = texts.map String.toUTF8 ∧ AreNames texts ∧
      Unreadable root texts content

theorem ofFound_directory (root : String) (names : List ByteArray) (entries : Entries) :
    ofFound root (names, .directory entries) =
      if Path.isLongBelow root names then
        .error ⟨Text.repair (Path.below root names), .nameTooLong⟩
      else .ok none := rfl

/-- A file whose names are the ones of an asset is read. -/
theorem ofFound_asset {texts : List String} (h : AreNames texts) (root : String)
    (content : ByteArray) :
    ofFound root (texts.map String.toUTF8, .file content) =
      let path := "/".intercalate texts
      if Path.isLongBelow root (texts.map String.toUTF8) then
        .error ⟨Path.join root path, .nameTooLong⟩
      else
        match String.fromUTF8? content with
        | some text => .ok (some (path, text))
        | none => .error ⟨Path.join root path, .notText⟩ := by
  have hpath : (Path.ofNames? (texts.map String.toUTF8)).filter isAsset =
      some ("/".intercalate texts) := by
    rw [Path.ofNames?_eq_some_iff.2 ⟨texts, rfl, rfl⟩, Option.filter_some_pos]
    exact areNames_iff.1 h
  unfold ofFound
  simp only [hpath, Node.text]
  cases String.fromUTF8? content <;> rfl

/-- Any other file is passed over. -/
theorem ofFound_other {names : List ByteArray}
    (h : ∀ texts : List String, names = texts.map String.toUTF8 → ¬ AreNames texts) (root : String)
    (content : ByteArray) : ofFound root (names, .file content) = .ok none := by
  have hpath : (Path.ofNames? names).filter isAsset = none := by
    rw [Option.filter_eq_none_iff]
    intro path hpath hasset
    obtain ⟨texts, rfl, rfl⟩ := Path.ofNames?_eq_some_iff.1 hpath
    exact h texts rfl (areNames_iff.2 hasset)
  unfold ofFound
  simp only [hpath]

theorem ofFound_error_iff {names : List ByteArray} {found : Node} :
    (∃ fault, ofFound root (names, found) = .error fault) ↔ Stops root names found := by
  cases found with
  | directory entries =>
    rw [ofFound_directory]
    unfold Stops
    split <;> simp_all
  | file content =>
    by_cases hasset : ∃ texts : List String, names = texts.map String.toUTF8 ∧ AreNames texts
    · obtain ⟨texts, rfl, hasset⟩ := hasset
      rw [ofFound_asset hasset]
      have hstops : Stops root (texts.map String.toUTF8) (.file content) ↔
          Unreadable root texts content := by
        refine ⟨fun ⟨others, hothers, _, h⟩ => ?_, fun h => ⟨texts, rfl, hasset, h⟩⟩
        rwa [map_toUTF8_injective hothers]
      rw [hstops, Unreadable]
      cases String.fromUTF8? content <;> split <;> simp_all
    · rw [ofFound_other fun texts hnames htexts => hasset ⟨texts, hnames, htexts⟩]
      refine iff_of_false (not_exists_error rfl) ?_
      rintro ⟨texts, hnames, htexts, _⟩
      exact hasset ⟨texts, hnames, htexts⟩

/-- What does not stop the search is found exactly if it is an asset. -/
theorem ofFound_some_iff {names : List ByteArray} {found : Node} {key text : String}
    (hfree : ¬ Stops root names found) :
    ofFound root (names, found) = .ok (some (key, text)) ↔
      found = .file text.toUTF8 ∧
        ∃ texts : List String, names = texts.map String.toUTF8 ∧ AreNames texts ∧
          "/".intercalate texts = key := by
  cases found with
  | directory entries =>
    have hshort : ¬ Path.isLongBelow root names := hfree
    rw [ofFound_directory, if_neg hshort]
    simp
  | file content =>
    by_cases hasset : ∃ texts : List String, names = texts.map String.toUTF8 ∧ AreNames texts
    · obtain ⟨texts, rfl, hasset⟩ := hasset
      have hshort : ¬ Path.isLongBelow root (texts.map String.toUTF8) :=
        fun hlong => hfree ⟨texts, rfl, hasset, .inl hlong⟩
      have htexts : ∀ others : List String, texts.map String.toUTF8 = others.map String.toUTF8 ↔
          texts = others := fun others => ⟨map_toUTF8_injective, fun h => by rw [h]⟩
      rw [ofFound_asset hasset]
      simp only [if_neg hshort, Node.file.injEq, ← Text.fromUTF8?_eq_some_iff, htexts, hasset,
        true_and, exists_eq_left']
      cases String.fromUTF8? content <;> simp [and_comm]
    · rw [ofFound_other fun texts hnames htexts => hasset ⟨texts, hnames, htexts⟩]
      refine iff_of_false (fun h => nomatch h) ?_
      rintro ⟨_, texts, hnames, htexts, _⟩
      exact hasset ⟨texts, hnames, htexts⟩

/-! ## All that has been found -/

section All

variable {node : Node} {found : List (List ByteArray × Node)} {assets : Assets}

/-- All that has been found is below a node. -/
def Below (node : Node) (found : List (List ByteArray × Node)) : Prop :=
  ∀ entry ∈ found, node.LeadsTo entry.1 entry.2

theorem ofAllFound_error_iff :
    (∃ fault, ofAllFound root found = .error fault) ↔
      ∃ entry ∈ found, Stops root entry.1 entry.2 := by
  have hsearch : (∃ fault, ofAllFound root found = .error fault) ↔
      ∃ fault, found.filterMapM (ofFound root) = .error fault := by
    unfold ofAllFound
    cases found.filterMapM (ofFound root) <;> simp [bind, Except.bind, pure, Except.pure]
  rw [hsearch, exists_filterMapM_eq_error_iff]
  exact exists_congr fun entry => and_congr_right fun _ => ofFound_error_iff

theorem exists_stops_iff :
    (∃ entry ∈ found, Stops root entry.1 entry.2) ↔
      (∃ names entries, (names, .directory entries) ∈ found ∧ Path.isLongBelow root names) ∨
        ∃ (names : List String) (content : ByteArray),
          (names.map String.toUTF8, .file content) ∈ found ∧ AreNames names ∧
            Unreadable root names content := by
  constructor
  · rintro ⟨⟨names, content | entries⟩, hentry, hstops⟩
    · obtain ⟨texts, hnames, h⟩ := hstops
      obtain rfl : names = texts.map String.toUTF8 := hnames
      exact .inr ⟨texts, content, hentry, h⟩
    · exact .inl ⟨names, entries, hentry, hstops⟩
  · rintro (⟨names, entries, hentry, hlong⟩ | ⟨names, content, hentry, h⟩)
    · exact ⟨_, hentry, hlong⟩
    · exact ⟨_, hentry, names, rfl, h⟩

/-- Each asset among what has been found below a proper node is bound to its path, and nothing else
is. -/
theorem get?_ofAllFound (hproper : node.Proper) (hbelow : Below node found)
    (h : ofAllFound root found = .ok assets) {key text : String} :
    assets.get? key = some text ↔
      ∃ names : List String, "/".intercalate names = key ∧ AreNames names ∧
        (names.map String.toUTF8, .file text.toUTF8) ∈ found := by
  have hfree : ∀ entry ∈ found, ¬ Stops root entry.1 entry.2 := fun entry hentry hstops =>
    not_exists_error h (ofAllFound_error_iff.2 ⟨entry, hentry, hstops⟩)
  unfold ofAllFound at h
  obtain ⟨pairs, hpairs, hassets⟩ := bind_eq_ok_iff.1 h
  obtain rfl := pure_eq_ok_iff.1 hassets
  have hmem : ∀ pair : String × String, pair ∈ pairs ↔
      ∃ names : List String, "/".intercalate names = pair.1 ∧ AreNames names ∧
        (names.map String.toUTF8, .file pair.2.toUTF8) ∈ found := by
    intro pair
    rw [mem_of_filterMapM_eq_ok hpairs]
    constructor
    · rintro ⟨⟨names, entry⟩, hentry, hfound⟩
      obtain ⟨rfl, texts, rfl, hasset, hkey⟩ :=
        (ofFound_some_iff (hfree _ hentry)).1 hfound
      exact ⟨texts, hkey, hasset, hentry⟩
    · rintro ⟨texts, hkey, hasset, hentry⟩
      exact ⟨_, hentry, (ofFound_some_iff (hfree _ hentry)).2
        ⟨rfl, texts, rfl, hasset, hkey⟩⟩
  rw [Bindings.get?_ofList_eq_some_iff, hmem]
  intro pair hpair other hother hkey
  obtain ⟨names, hpath, hasset, hentry⟩ := (hmem pair).1 hpair
  obtain ⟨others, hotherPath, hotherAsset, hotherEntry⟩ := (hmem other).1 hother
  have hsame := unique_of_path hproper ⟨hbelow _ hentry, hasset⟩ ⟨hbelow _ hotherEntry, hotherAsset⟩
    (by rw [hpath, hkey, hotherPath])
  exact Text.toUTF8_injective hsame.2

end All

end Assets

end ScreenFlow
